import TimeCapsule.Home.Distinct

/-!
# The initial load

A home screen that appears asks for a page twice and for the list once. Two of the answers are
merged and one of them, the page of `viewDidLoad`, replaces both arrays: whatever was handled before
it is lost. `load_order_independent_iff` says for which answers the order does not matter.
-/

namespace TimeCapsule.Home
open Foundation

namespace HomeScreen

/-- What a new screen does. -/
def appear (keychain : Keychain) (s : HomeScreen) : HomeScreen :=
  (s.viewDidLoad keychain).viewWillAppear keychain

/-- The requests are answered by this list and this page, and the answers are handled. -/
def Answers (list : TimeCapsulePreviewResponse) (page : TimeCapsulePreviewPaginationResponse) :
    HomeEvent → Prop
  | .fetch (.reply _ response) => response = .decoded list
  | .page (.reply _ response) => response = .decoded page
  | .fetch (.deliver _) | .page (.deliver _) => True
  | _ => False

instance (list : TimeCapsulePreviewResponse) (page : TimeCapsulePreviewPaginationResponse) :
    DecidablePred (Answers list page)
  | .fetch (.reply _ _) | .page (.reply _ _) => inferInstanceAs (Decidable (_ = _))
  | .fetch (.deliver _) | .page (.deliver _) => inferInstanceAs (Decidable True)
  | .viewWillAppear | .scrollViewDidScroll .. | .handleTagButtonTap _ | .toggleCapsuleViewButton _
  | .sort _ | .confirmPressed _ | .deletion _ => inferInstanceAs (Decidable False)

/-- From `s` the screen appears, and in some order its requests are all answered and handled. -/
def Loads (keychain : Keychain) (list : TimeCapsulePreviewResponse)
    (page : TimeCapsulePreviewPaginationResponse) (s t : HomeScreen) : Prop :=
  ∃ es, (∀ e ∈ es, Answers list page e) ∧ Run.exec (step keychain) (s.appear keychain) es = some t ∧
    t.Quiet

/-- All orders of the answers lead to the same capsules, and to each id once. -/
def OrderIndependent (keychain : Keychain) (list : TimeCapsulePreviewResponse)
    (page : TimeCapsulePreviewPaginationResponse) (s : HomeScreen) : Prop :=
  ∀ t u, Loads keychain list page s t → Loads keychain list page s u →
    Distinct t.store.model.original ∧
      ∀ c, c ∈ t.store.model.original ↔ c ∈ u.store.model.original

/-- While the screen loads, the answers are those of the server, and the page of `viewDidLoad` is
either still to come or what the store holds. -/
structure Loading (list : TimeCapsulePreviewResponse) (page : TimeCapsulePreviewPaginationResponse)
    (s : HomeScreen) : Prop where
  completion : ∀ x ∈ s.fetches, x.request.completion = .fetchdata
  fetches : ∀ x ∈ s.fetches, ∀ a ∈ x.answer, a = .decoded list
  pages : ∀ x ∈ s.pages, ∀ a ∈ x.answer, a = .decoded page
  installs : (∃ x ∈ s.pages, x.request.completion = .viewDidLoad) ∨
    s.store.model.original = page.result.capsuleList

section Loading
variable {keychain : Keychain} {list : TimeCapsulePreviewResponse}
  {page : TimeCapsulePreviewPaginationResponse} {s t : HomeScreen} {e : HomeEvent}

/-- Merging the page into itself and removing duplicates leaves it alone. -/
lemma merge_page_self {l : List TimeCapsulePreview} (distinct : Distinct l) :
    removingDuplicates (Keyed.mergeOn TimeCapsulePreview.id l l) = l := by
  rw [Keyed.mergeOn_eq_left_iff.2 fun c hc => List.mem_map_of_mem hc]
  exact removingDuplicates_of_nodup (List.Nodup.of_map _ distinct)

/-- The list is handled: it adds nothing to the page. -/
lemma loading_fetchHandler (loading : Loading list page s)
    (covers : ∀ c ∈ list.result, c.id ∈ page.result.capsuleList.map (·.id)) {r : FetchRequest}
    (completion : r.completion = .fetchdata) :
    Loading list page (s.fetchHandler keychain r (.decoded list)) := by
  obtain ⟨token, _⟩ := r
  cases completion
  refine ⟨loading.completion, loading.fetches, loading.pages, ?_⟩
  rcases loading.installs with pending | original
  · exact .inl pending
  · apply Or.inr
    show (s.store.model.fetchTimeCapsulePreviews list.result).original = _
    rw [TimeCapsulePreviewModel.fetchTimeCapsulePreviews_original, original]
    exact Keyed.mergeOn_eq_left_iff.2 covers

/-- A page is handled: it replaces the arrays, or adds nothing to the page. -/
lemma loading_pageHandler (distinct : Distinct page.result.capsuleList) {r : PageRequest}
    (completion : ∀ x ∈ s.fetches, x.request.completion = .fetchdata)
    (fetches : ∀ x ∈ s.fetches, ∀ a ∈ x.answer, a = .decoded list)
    (pages : ∀ x ∈ s.pages, ∀ a ∈ x.answer, a = .decoded page)
    (installs : r.completion = .viewDidLoad ∨ (∃ x ∈ s.pages, x.request.completion = .viewDidLoad) ∨
      s.store.model.original = page.result.capsuleList) :
    Loading list page (s.pageHandler r (.decoded page)) := by
  obtain ⟨wireF, wireP, _⟩ := pageHandler_wires s r (.decoded page)
  refine ⟨by rwa [wireF], by rwa [wireF], by rwa [wireP], ?_⟩
  rw [wireP]
  obtain ⟨token, cursor, completion⟩ := r
  cases completion with
  | viewDidLoad => exact .inr (TimeCapsulePreviewModel.firstFetch_original _)
  | fetchdataPagination =>
    rcases installs with completion | pending | original
    · cases completion
    · exact .inl pending
    · apply Or.inr
      show removingDuplicates (TimeCapsulePreviewModel.fetchTimeCapsulePreviews _ _).original = _
      rw [TimeCapsulePreviewModel.fetchTimeCapsulePreviews_original]
      show removingDuplicates (Keyed.mergeOn _ s.store.model.original _) = _
      rw [original]
      exact merge_page_self distinct

/-- Sending more requests of the same kinds keeps the invariant. -/
lemma Loading.sends (loading : Loading list page s) (sends : Sends keychain s t) :
    Loading list page t := by
  refine ⟨?_, ?_, ?_, ?_⟩
  · intro x hx
    rcases sends.fetch x hx with hx | ⟨token, _, rfl⟩
    · exact loading.completion x hx
    · rfl
  · intro x hx
    rcases sends.fetch x hx with hx | ⟨token, _, rfl⟩
    · exact loading.fetches x hx
    · exact Wire.unanswered
  · intro x hx
    rcases sends.page x hx with hx | ⟨token, completion, _, rfl⟩
    · exact loading.pages x hx
    · exact Wire.unanswered
  · rcases loading.installs with ⟨x, hx, completion⟩ | original
    · exact .inl ⟨x, sends.pages x hx, completion⟩
    · exact .inr (sends.store ▸ original)

/-- The list wire's part: it keeps the invariant, and hands over the list. -/
lemma Loading.fetchWire {traffic : FetchTraffic}
    {fetches : Wire FetchRequest (DataResponse TimeCapsulePreviewResponse)}
    {d : Option (FetchRequest × DataResponse TimeCapsulePreviewResponse)}
    (loading : Loading list page s) (answers : Answers list page (.fetch traffic))
    (moves : Wire.Moves s.fetches traffic fetches d) :
    Loading list page { s with fetches } ∧
      ∀ r response, d = some (r, response) → r.completion = .fetchdata ∧ response = .decoded list := by
  have reply : ∀ i a, traffic = .reply i a → a = .decoded list := by
    rintro i a rfl
    exact answers
  obtain ⟨kept, handed⟩ := moves.answers loading.fetches reply
  constructor
  · refine ⟨?_, kept, loading.pages, loading.installs⟩
    intro x hx
    obtain ⟨y, hy, hr⟩ := moves.request hx
    exact hr ▸ loading.completion y hy
  · intro r response hd
    exact ⟨loading.completion _ (moves.delivered hd), handed r response hd⟩

/-- The page wire's part: the page of `viewDidLoad` is handed over, or stays outstanding. -/
lemma Loading.pageWire {traffic : PageTraffic}
    {pages : Wire PageRequest (DataResponse TimeCapsulePreviewPaginationResponse)}
    {d : Option (PageRequest × DataResponse TimeCapsulePreviewPaginationResponse)}
    (loading : Loading list page s) (answers : Answers list page (.page traffic))
    (moves : Wire.Moves s.pages traffic pages d) :
    (∀ x ∈ pages, ∀ a ∈ x.answer, a = .decoded page) ∧
      (∀ r response, d = some (r, response) → response = .decoded page) ∧
      ((∃ r response, d = some (r, response) ∧ r.completion = .viewDidLoad) ∨
        (∃ x ∈ pages, x.request.completion = .viewDidLoad) ∨
        s.store.model.original = page.result.capsuleList) := by
  have reply : ∀ i a, traffic = .reply i a → a = .decoded page := by
    rintro i a rfl
    exact answers
  obtain ⟨kept, handed⟩ := moves.answers loading.pages reply
  refine ⟨kept, handed, ?_⟩
  rcases loading.installs with ⟨x, hx, completion⟩ | original
  · have stays := moves.keeps hx (Q := fun _ => True) trivial fun _ _ _ _ _ => trivial
    rcases stays with ⟨y, hy, hr, _⟩ | ⟨a, _, hd⟩
    · exact .inr (.inl ⟨y, hy, hr ▸ completion⟩)
    · exact .inl ⟨x.request, a, hd, completion⟩
  · exact .inr (.inr original)

/-- Handling the answers keeps the invariant, if the list adds nothing to the page. -/
lemma step_loading (distinct : Distinct page.result.capsuleList)
    (covers : ∀ c ∈ list.result, c.id ∈ page.result.capsuleList.map (·.id))
    (answers : Answers list page e) (loading : Loading list page s)
    (h : s.step keychain e = some t) : Loading list page t := by
  cases step_inv h with
  | sends sends => exact loading.sends sends
  | deletes => cases answers
  | tap he =>
    cases e with
    | fetch | page => cases he
    | _ => cases answers
  | fetchMoves hw => exact (loading.fetchWire answers (Wire.moves_of_step hw)).1
  | fetchHandled hw =>
    obtain ⟨rest, handed⟩ := loading.fetchWire answers (Wire.moves_of_step hw)
    obtain ⟨completion, rfl⟩ := handed _ _ rfl
    exact loading_fetchHandler rest covers completion
  | pageMoves hw =>
    obtain ⟨kept, _, installs⟩ := loading.pageWire answers (Wire.moves_of_step hw)
    refine ⟨loading.completion, loading.fetches, kept, ?_⟩
    apply installs.resolve_left
    rintro ⟨_, _, hd, _⟩
    cases hd
  | pageHandled hw =>
    obtain ⟨kept, handed, installs⟩ := loading.pageWire answers (Wire.moves_of_step hw)
    cases handed _ _ rfl
    refine loading_pageHandler distinct loading.completion loading.fetches kept (installs.imp ?_ id)
    rintro ⟨_, _, hd, completion⟩
    cases hd
    exact completion
  | deletionMoves => cases answers
  | deletionHandled => cases answers

end Loading

/-! ## Loads -/

section Loads
variable {keychain : Keychain} {list : TimeCapsulePreviewResponse}
  {page : TimeCapsulePreviewPaginationResponse} {s t : HomeScreen} {token : String}

/-- A screen with another page to come sends three requests. -/
lemma appear_eq (hasNext : s.store.model.hasNext = true)
    (refresh : keychain.load .refreshToken = some token) (fcm : (keychain.load .fcmToken).isSome) :
    s.appear keychain =
      ((s.fetchTimeCapsulesPagination token .fetchdataPagination).fetchTimeCapsulesPagination
        token .viewDidLoad).fetchTimeCapsules token .fetchdata := by
  obtain ⟨fcmToken, hf⟩ := Option.isSome_iff_exists.1 fcm
  simp only [appear, viewDidLoad, viewWillAppear, fetchdata, fetchdataPagination, refresh, hf,
    hasNext, if_true]

/-- If the list adds nothing to the page, every load ends with the page. -/
lemma original_of_loads (quiet : s.Quiet) (hasNext : s.store.model.hasNext = true)
    (refresh : keychain.load .refreshToken = some token) (fcm : (keychain.load .fcmToken).isSome)
    (distinct : Distinct page.result.capsuleList)
    (covers : ∀ c ∈ list.result, c.id ∈ page.result.capsuleList.map (·.id))
    (loads : Loads keychain list page s t) : t.store.model.original = page.result.capsuleList := by
  obtain ⟨es, answers, run, done⟩ := loads
  obtain ⟨_, hp, _⟩ := done
  have init : Loading list page (s.appear keychain) := by
    rw [appear_eq hasNext refresh fcm]
    obtain ⟨hf, hp, _⟩ := quiet
    refine ⟨?_, ?_, ?_, .inl ?_⟩
    · intro x hx
      rcases Wire.mem_send.1 hx with hx | rfl
      · exact absurd (hf ▸ hx) List.not_mem_nil
      · rfl
    · intro x hx
      rcases Wire.mem_send.1 hx with hx | rfl
      · exact absurd (hf ▸ hx) List.not_mem_nil
      · exact Wire.unanswered
    · intro x hx
      rcases Wire.mem_send.1 hx with hx | rfl
      · rcases Wire.mem_send.1 hx with hx | rfl
        · exact absurd (hp ▸ hx) List.not_mem_nil
        · exact Wire.unanswered
      · exact Wire.unanswered
    · exact ⟨_, Wire.mem_send.2 (.inr rfl), rfl⟩
  have loading : Loading list page t :=
    Run.exec_inv (fun u e he loading v hv => step_loading distinct covers (answers e he) loading hv)
      init run
  apply loading.installs.resolve_left
  rintro ⟨x, hx, _⟩
  exact absurd (hp ▸ hx) List.not_mem_nil

/-- A load in which the page of `viewDidLoad` is handled last ends with the page. -/
lemma loads_page_last (quiet : s.Quiet) (hasNext : s.store.model.hasNext = true)
    (refresh : keychain.load .refreshToken = some token) (fcm : (keychain.load .fcmToken).isSome) :
    ∃ t, Loads keychain list page s t ∧ t.store.model.original = page.result.capsuleList := by
  obtain ⟨store, fetches, pages, deletions, returned⟩ := s
  obtain ⟨rfl, rfl, rfl⟩ := quiet
  refine ⟨?t, ⟨[.fetch (.reply 0 (.decoded list)), .fetch (.deliver 0),
    .page (.reply 0 (.decoded page)), .page (.deliver 0),
    .page (.reply 0 (.decoded page)), .page (.deliver 0)], ?answers, ?run, ?quiet⟩, ?original⟩
  case run =>
    rw [appear_eq hasNext refresh fcm]
    rfl
  case answers => simp [Answers]
  case quiet => exact ⟨rfl, rfl, rfl⟩
  case original => exact TimeCapsulePreviewModel.firstFetch_original _

/-- A load in which the list is handled last ends with the page and what the list adds to it. -/
lemma loads_list_last (quiet : s.Quiet) (hasNext : s.store.model.hasNext = true)
    (refresh : keychain.load .refreshToken = some token) (fcm : (keychain.load .fcmToken).isSome) :
    ∃ t, Loads keychain list page s t ∧ t.store.model.original =
      Keyed.mergeOn TimeCapsulePreview.id page.result.capsuleList list.result := by
  obtain ⟨store, fetches, pages, deletions, returned⟩ := s
  obtain ⟨rfl, rfl, rfl⟩ := quiet
  refine ⟨?t, ⟨[.page (.reply 0 (.decoded page)), .page (.deliver 0),
    .page (.reply 0 (.decoded page)), .page (.deliver 0),
    .fetch (.reply 0 (.decoded list)), .fetch (.deliver 0)], ?answers, ?run, ?quiet⟩, ?original⟩
  case run =>
    rw [appear_eq hasNext refresh fcm]
    rfl
  case answers => simp [Answers]
  case quiet => exact ⟨rfl, rfl, rfl⟩
  case original =>
    show (TimeCapsulePreviewModel.fetchTimeCapsulePreviews (TimeCapsulePreviewModel.firstFetch _ _)
      _).original = _
    rw [TimeCapsulePreviewModel.fetchTimeCapsulePreviews_original,
      TimeCapsulePreviewModel.firstFetch_original]

/-- If the list has an id that the page lacks, two loads end with different capsules. -/
lemma loads_differ (quiet : s.Quiet) (hasNext : s.store.model.hasNext = true)
    (refresh : keychain.load .refreshToken = some token) (fcm : (keychain.load .fcmToken).isSome)
    (list : TimeCapsulePreviewResponse) (page : TimeCapsulePreviewPaginationResponse)
    {c : TimeCapsulePreview} (listed : c ∈ list.result)
    (lacks : c.id ∉ page.result.capsuleList.map (·.id)) :
    ∃ t u, Loads keychain list page s t ∧ Loads keychain list page s u ∧
      ∃ d, d ∉ t.store.model.original ∧ d ∈ u.store.model.original := by
  obtain ⟨t, loads, original⟩ := loads_page_last quiet hasNext refresh fcm
  obtain ⟨u, loads', original'⟩ := loads_list_last quiet hasNext refresh fcm
  have key : c.id ∈ (Keyed.mergeOn TimeCapsulePreview.id page.result.capsuleList list.result).map
      (·.id) := Keyed.key_mem_mergeOn.2 (.inr (List.mem_map_of_mem listed))
  obtain ⟨d, hd, e⟩ := List.mem_map.1 key
  refine ⟨t, u, loads, loads', d, ?_, original' ▸ hd⟩
  rw [original]
  exact fun hd => lacks (List.mem_map.2 ⟨d, hd, e⟩)

end Loads

/-- The three answers to a new screen lead to the same capsules in every order, and to each id once,
just when the page lists no id twice and has all the ids of the list already. -/
theorem load_order_independent_iff {keychain : Keychain} {s : HomeScreen} {token : String}
    (quiet : s.Quiet) (hasNext : s.store.model.hasNext = true)
    (refresh : keychain.load .refreshToken = some token) (fcm : (keychain.load .fcmToken).isSome)
    (list : TimeCapsulePreviewResponse) (page : TimeCapsulePreviewPaginationResponse) :
    OrderIndependent keychain list page s ↔
      Distinct page.result.capsuleList ∧
        ∀ c ∈ list.result, c.id ∈ page.result.capsuleList.map (·.id) := by
  constructor
  · intro same
    constructor
    · obtain ⟨t, loads, original⟩ := loads_page_last quiet hasNext refresh fcm
      rw [← original]
      exact (same t t loads loads).1
    · intro c hc
      by_contra lacks
      obtain ⟨t, u, loads, loads', d, hd, hd'⟩ :=
        loads_differ quiet hasNext refresh fcm list page hc lacks
      exact hd (((same t u loads loads').2 d).2 hd')
  · rintro ⟨distinct, covers⟩ t u loads loads'
    have original := original_of_loads quiet hasNext refresh fcm distinct covers loads
    have original' := original_of_loads quiet hasNext refresh fcm distinct covers loads'
    rw [original, original']
    exact ⟨distinct, fun _ => Iff.rfl⟩

/-- The list is the page, and both hold one capsule. -/
theorem load_order_independent_one_page :
    OrderIndependent (((∅ : Keychain).save "r" .refreshToken).save "f" .fcmToken)
      ⟨true, "200", "OK", [⟨1, 1, false, "t", "가족", "", "", ""⟩]⟩
      ⟨true, "200", "OK", ⟨[⟨1, 1, false, "t", "가족", "", "", ""⟩], false, 1⟩⟩
      { store := .launch ⟨fun _ _ => none, ⟨"", ""⟩, fun _ => 0⟩ } :=
  (load_order_independent_iff ⟨rfl, rfl, rfl⟩ rfl (Keychain.load_save_ne _ (by decide)) rfl _ _).2
    (by decide)

/-- The page holds the first of two capsules: handled last, it takes the second one away. -/
theorem load_order_matters :
    ¬ ∀ (keychain : Keychain) (s : HomeScreen) (token : String) (list : TimeCapsulePreviewResponse)
      (page : TimeCapsulePreviewPaginationResponse), s.Quiet →
      s.store.model.original = [] → s.store.model.filtered = [] → s.store.model.hasNext = true →
      keychain.load .refreshToken = some token → (keychain.load .fcmToken).isSome →
      Distinct list.result → (∀ c ∈ page.result.capsuleList, c ∈ list.result) →
      OrderIndependent keychain list page s := by
  intro h
  obtain ⟨t, u, loads, loads', d, hd, hd'⟩ := loads_differ
    (s := { store := .launch ⟨fun _ _ => none, ⟨"", ""⟩, fun _ => 0⟩ }) ⟨rfl, rfl, rfl⟩ rfl
    (show (((∅ : Keychain).save "r" .refreshToken).save "f" .fcmToken).load .refreshToken = some "r"
      from rfl) rfl
    ⟨true, "200", "OK", [⟨1, 1, false, "t", "가족", "", "", ""⟩,
      ⟨2, 1, false, "u", "가족", "", "", ""⟩]⟩
    ⟨true, "200", "OK", ⟨[⟨1, 1, false, "t", "가족", "", "", ""⟩], false, 1⟩⟩
    (c := ⟨2, 1, false, "u", "가족", "", "", ""⟩) (by decide) (by decide)
  have same := h _ _ "r" _ _ ⟨rfl, rfl, rfl⟩ rfl rfl rfl rfl rfl (by decide) (by decide) t u
    loads loads'
  exact hd ((same.2 d).2 hd')

end HomeScreen

end TimeCapsule.Home
