import TimeCapsule.Home.Screens
import TimeCapsule.Lib.Chain

/-!
# The paging cursor

A chain of pages is asked for by its cursors, and a handled answer stores the cursor behind its
page, whatever has been stored since its request. `Traced` says that no outstanding request is ahead
of the stored cursor; next to it the cursor moves forward at a step just when the answer is on time
(`step_forward_iff`), and `cursor_forward_iff` says this of whole runs.
-/

namespace TimeCapsule.Home
open Foundation

/-- Pages behind distinct cursors, from cursor 0. -/
structure PageChain where
  pages : List (Chain.Page Int TimeCapsulePreview)
  last : Int
  start : pages.head?.map Chain.Page.cursor = some 0
  distinct : (Chain.cursors last pages).Nodup

namespace PageChain

/-- The answer to the page request with a cursor. -/
def answer (L : PageChain) (cursor : Int) : Option TimeCapsulePreviewResult :=
  (Chain.answer L.last L.pages cursor).map fun r => ⟨r.items, r.hasNext, r.next⟩

/-- The place of a cursor along the chain. -/
def position (L : PageChain) (cursor : Int) : Nat := Chain.position L.last L.pages cursor

/-- The cursor belongs to the chain. -/
def On (L : PageChain) (cursor : Int) : Prop := cursor ∈ Chain.cursors L.last L.pages

variable {L : PageChain} {cursor : Int} {r : TimeCapsulePreviewResult}

/-- The chain starts at cursor 0. -/
lemma on_zero (L : PageChain) : L.On 0 := by
  have start := L.start
  unfold On
  cases h : L.pages with
  | nil => simp [h] at start
  | cons p ps =>
    have first : p.cursor = 0 := by simpa [h] using start
    rw [Chain.cursors_cons, first]
    exact .head _

/-- An answer leads one position further along the chain. -/
lemma of_answer (h : L.answer cursor = some r) :
    L.On cursor ∧ L.On r.cursor ∧ L.position r.cursor = L.position cursor + 1 := by
  obtain ⟨r, hr, rfl⟩ := Option.map_eq_some_iff.1 h
  obtain ⟨asked, next⟩ := Chain.mem_cursors_of_answer hr
  exact ⟨asked, next, Chain.position_next L.distinct hr⟩

end PageChain

namespace Screens

/-- The server answers a cursor with its page of the chain. -/
def Serves (L : PageChain) (s : HomeScreen × List Int) : ScreensEvent → Prop
  | .screen _ (.page (.reply i response)) => ∀ x ∈ s.1.pages[i]?, x.answer = none →
    ∀ json ∈ response.json, L.answer x.request.cursor = some json.result
  | _ => True

/-- The history notes the cursors that are stored. -/
def noteStored (s : HomeScreen) (e : ScreensEvent) (stored : List Int) : List Int :=
  ((handledPage s e).map fun d => d.2.result.cursor).toList ++ stored

/-- The stored cursor does not move back along the chain. -/
def Forward (L : PageChain) (s : HomeScreen × List Int) (e : ScreensEvent) : Prop :=
  ∀ t ∈ step s.1 e, L.position s.1.store.model.cursor ≤ L.position t.store.model.cursor

/-- No page is requested after the cursor behind it has been stored. -/
def NoRepeat (L : PageChain) (s : HomeScreen × List Int) (e : ScreensEvent) : Prop :=
  ∀ r ∈ issued s.1 e, ∀ result ∈ L.answer r.cursor, result.cursor ∉ s.2

/-- Along a run from launch the cursor never goes back, so that no page is requested again. -/
def NeverBack (L : PageChain) (p : Process) (es : List ScreensEvent) : Prop :=
  Run.Steps (Run.record step noteStored) (Forward L) (launch p, []) es ∧
    Run.Steps (Run.record step noteStored) (NoRepeat L) (launch p, []) es

/-- When a page is handled, the cursor it was requested with is still stored, or the cursor behind
it already. -/
def OnTime (s : HomeScreen × List Int) (e : ScreensEvent) : Prop :=
  ∀ d ∈ handledPage s.1 e,
    s.1.store.model.cursor = d.1.cursor ∨ s.1.store.model.cursor = d.2.result.cursor

instance (L : PageChain) (s : HomeScreen × List Int) : DecidablePred (Serves L s)
  | .screen _ (.page (.reply i response)) =>
    inferInstanceAs (Decidable (∀ x ∈ s.1.pages[i]?, _ → ∀ json ∈ response.json, _))
  | .viewDidLoad _ | .screen _ (.page (.deliver _)) | .screen _ (.fetch _) | .screen _ (.deletion _)
  | .screen _ .viewWillAppear | .screen _ (.scrollViewDidScroll ..)
  | .screen _ (.handleTagButtonTap _) | .screen _ (.toggleCapsuleViewButton _) | .screen _ (.sort _)
  | .screen _ (.confirmPressed _) => inferInstanceAs (Decidable True)

instance (L : PageChain) (s : HomeScreen × List Int) : DecidablePred (Forward L s) := fun e =>
  inferInstanceAs (Decidable (∀ t ∈ step s.1 e, _ ≤ _))

instance (L : PageChain) (s : HomeScreen × List Int) : DecidablePred (NoRepeat L s) := fun e =>
  inferInstanceAs (Decidable (∀ r ∈ issued s.1 e, ∀ result ∈ L.answer r.cursor, _ ∉ _))

instance (L : PageChain) (p : Process) : DecidablePred (NeverBack L p) := fun _ =>
  inferInstanceAs (Decidable (Run.Steps _ _ _ _ ∧ Run.Steps _ _ _ _))

instance (s : HomeScreen × List Int) : DecidablePred (OnTime s) := fun e =>
  inferInstanceAs (Decidable (∀ d ∈ handledPage s.1 e, _ ∨ _))

/-- The stored cursor is on the chain, and neither an outstanding request nor a cursor stored before
is ahead of it; answers are pages of the chain. -/
structure Traced (L : PageChain) (s : HomeScreen × List Int) : Prop where
  on : L.On s.1.store.model.cursor
  pages : ∀ x ∈ s.1.pages, L.position x.request.cursor ≤ L.position s.1.store.model.cursor
  stored : ∀ cursor ∈ s.2, L.position cursor ≤ L.position s.1.store.model.cursor
  answers : ∀ x ∈ s.1.pages, ∀ response ∈ x.answer, ∀ json ∈ response.json,
    L.answer x.request.cursor = some json.result

variable {L : PageChain} {s : HomeScreen × List Int} {e : ScreensEvent}

/-! ## One step -/

/-- A page that is handled was outstanding, and handling it does not trap. -/
lemma of_handledPage {s : HomeScreen} {d : PageRequest × TimeCapsulePreviewPaginationResponse}
    (hd : d ∈ handledPage s e) : (∃ t, step s e = some t) ∧
      ∃ x ∈ s.pages, x.request = d.1 ∧ ∃ response ∈ x.answer, d.2 ∈ response.json := by
  cases e with
  | viewDidLoad => cases hd
  | screen keychain e =>
    cases e with
    | page traffic =>
      obtain ⟨pages, delivered, hw⟩ := s.pages.exists_step traffic
      simp only [handledPage, HomeScreen.handledPage, hw] at hd
      cases delivered with
      | none => cases hd
      | some delivered =>
        obtain ⟨r, response⟩ := delivered
        obtain ⟨json, hj, rfl⟩ := Option.map_eq_some_iff.1 hd
        refine ⟨?_, ⟨r, some response⟩, (Wire.moves_of_step hw).delivered rfl, rfl, response, rfl, hj⟩
        simp [step, HomeScreen.step, hw]
    | _ => cases hd

/-- The page that is handled is the answer to its request, which is not ahead of the cursor. -/
lemma Traced.handled (traced : Traced L s)
    {d : PageRequest × TimeCapsulePreviewPaginationResponse} (hd : d ∈ handledPage s.1 e) :
    L.answer d.1.cursor = some d.2.result ∧
      L.position d.1.cursor ≤ L.position s.1.store.model.cursor := by
  obtain ⟨_, x, hx, hr, response, ha, hj⟩ := of_handledPage hd
  rw [← hr]
  exact ⟨traced.answers x hx response ha d.2 hj, traced.pages x hx⟩

/-- A step moves the cursor forward just when the page it handles is on time. -/
lemma step_forward_iff (traced : Traced L s) : Forward L s e ↔ OnTime s e := by
  cases handled : handledPage s.1 e with
  | none =>
    have forward : Forward L s e := by
      intro t ht
      rw [(step_position ht).1, handled]
      exact le_rfl
    have onTime : OnTime s e := by
      intro d hd
      rw [handled] at hd
      cases hd
    exact iff_of_true forward onTime
  | some d =>
    obtain ⟨answer, behind⟩ := traced.handled handled
    obtain ⟨_, _, next⟩ := PageChain.of_answer answer
    constructor
    · intro forward d' hd'
      cases handled.symm.trans hd'
      obtain ⟨t, ht⟩ := (of_handledPage handled).1
      have ahead := forward t ht
      rw [(step_position ht).1, handled, Option.elim_some, next] at ahead
      -- between the page that was asked for and the next one there is no third position
      obtain same | same : L.position s.1.store.model.cursor = L.position d.1.cursor ∨
          L.position s.1.store.model.cursor = L.position d.2.result.cursor := by omega
      · exact .inl ((Chain.position_inj traced.on).1 same)
      · exact .inr ((Chain.position_inj traced.on).1 same)
    · intro onTime t ht
      rw [(step_position ht).1, handled, Option.elim_some]
      obtain same | same := onTime d handled
      · rw [same, next]
        exact Nat.le_succ _
      · rw [same]

/-- No request is for a page that has been passed. -/
lemma noRepeat_of_traced (traced : Traced L s) : NoRepeat L s e := by
  intro r hr result answer passed
  have behind := traced.stored result.cursor passed
  rw [(PageChain.of_answer answer).2.2, (of_mem_issued hr).2] at behind
  exact Nat.not_succ_le_self _ behind

/-- After a step the stored cursor is on the chain. -/
lemma step_on (traced : Traced L s) {t : HomeScreen} (h : step s.1 e = some t) :
    L.On t.store.model.cursor := by
  rw [(step_position h).1]
  cases handled : handledPage s.1 e with
  | none => exact traced.on
  | some d => exact (PageChain.of_answer (traced.handled handled).1).2.1

/-- The requests that are outstanding after a step were so before, or ask for the cursor of the
moment; and the answers are pages of the chain. -/
lemma step_pages (traced : Traced L s) (serves : Serves L s e) {t : HomeScreen}
    (h : step s.1 e = some t) {x} (hx : x ∈ t.pages) :
    L.position x.request.cursor ≤ L.position s.1.store.model.cursor ∧
      ∀ response ∈ x.answer, ∀ json ∈ response.json, L.answer x.request.cursor = some json.result := by
  obtain ⟨rs, sent, position⟩ := step_requests h
  rw [sent, List.mem_append, List.mem_map] at hx
  obtain hx | ⟨r, hr, rfl⟩ := hx
  · have old (hx : x ∈ s.1.pages) := And.intro (traced.pages x hx) (traced.answers x hx)
    cases e with
    | viewDidLoad => exact old hx
    | screen keychain e =>
      cases e with
      | page traffic =>
        obtain hx | ⟨i, response, r, rfl, hi, rfl⟩ := (s.1.pages.step_moves traffic).mem hx
        · exact old hx
        · refine ⟨traced.pages ⟨r, none⟩ (List.mem_of_getElem? hi), fun response' hr json hj => ?_⟩
          cases hr
          exact serves ⟨r, none⟩ hi rfl json hj
      | _ => exact old hx
  · rw [(position r hr).2]
    exact ⟨le_rfl, Wire.unanswered⟩

/-- A step forward keeps everything behind the cursor. -/
lemma step_traced (traced : Traced L s) (serves : Serves L s e) (forward : Forward L s e) :
    Run.After (Run.record step noteStored) (Traced L) s e := by
  intro t ht
  obtain ⟨taken, noted⟩ := Run.mem_record.1 ht
  have ahead := forward t.1 taken
  refine ⟨step_on traced taken, fun x hx => ?_, fun cursor hc => ?_, fun x hx => ?_⟩
  · exact (step_pages traced serves taken hx).1.trans ahead
  · rw [noted, noteStored, List.mem_append] at hc
    obtain hc | hc := hc
    · obtain ⟨d, hd, rfl⟩ := Option.map_eq_some_iff.1 (Option.mem_toList.1 hc)
      rw [(step_position taken).1, hd]
      exact le_rfl
    · exact (traced.stored cursor hc).trans ahead
  · exact (step_pages traced serves taken hx).2

/-! ## Runs -/

/-- Under a server that answers from a chain, the cursor never goes back just when every page is
handled on time. -/
theorem cursor_forward_iff (L : PageChain) (p : Process) (es : List ScreensEvent)
    (serves : Run.Steps (Run.record step noteStored) (Serves L) (launch p, []) es) :
    NeverBack L p es ↔ Run.Steps (Run.record step noteStored) OnTime (launch p, []) es := by
  have init : Traced L (launch p, []) :=
    ⟨L.on_zero, List.forall_mem_nil _, List.forall_mem_nil _, List.forall_mem_nil _⟩
  constructor
  · intro neverBack
    exact (serves.and neverBack.1).inv (fun _ _ traced c => step_traced traced c.1 c.2)
      (fun _ _ traced c => (step_forward_iff traced).1 c.2) init
  · intro onTime
    have keep (s : HomeScreen × List Int) (e : ScreensEvent) (traced : Traced L s)
        (c : Serves L s e ∧ OnTime s e) : Run.After (Run.record step noteStored) (Traced L) s e :=
      step_traced traced c.1 ((step_forward_iff traced).2 c.2)
    have both := serves.and onTime
    exact ⟨both.inv keep (fun _ _ traced c => (step_forward_iff traced).2 c.2) init,
      both.inv keep (fun _ _ traced _ => noRepeat_of_traced traced) init⟩

/-- A screen that loads and scrolls over three pages: both answers for the first page are handled
before the one for the second. -/
theorem cursor_forward_scroll :
    NeverBack ⟨[⟨0, []⟩, ⟨1, []⟩, ⟨2, []⟩], 3, rfl, by decide⟩
      ⟨fun _ _ => none, ⟨"", ""⟩, fun _ => 0⟩
      [.viewDidLoad (((∅ : Keychain).save "r" .refreshToken).save "f" .fcmToken),
        .screen ∅ (.page (.reply 0 (.decoded ⟨true, "200", "OK", ⟨[], true, 1⟩⟩))),
        .screen ∅ (.page (.deliver 0)),
        .screen ((∅ : Keychain).save "r" .refreshToken) (.scrollViewDidScroll 0 0 0),
        .screen ∅ (.page (.reply 0 (.decoded ⟨true, "200", "OK", ⟨[], true, 1⟩⟩))),
        .screen ∅ (.page (.deliver 0)),
        .screen ∅ (.page (.reply 0 (.decoded ⟨true, "200", "OK", ⟨[], true, 2⟩⟩))),
        .screen ∅ (.page (.deliver 0))] :=
  (cursor_forward_iff _ _ _ (by decide +kernel)).2 (by decide +kernel)

/-- The second answer for the first page is handled after the one for the second page: the cursor
goes back, and the second page is requested again. -/
theorem cursor_goes_back :
    ¬ ∀ (L : PageChain) (p : Process) (es : List ScreensEvent),
      Run.Steps (Run.record step noteStored) (Serves L) (launch p, []) es → NeverBack L p es := by
  intro h
  have run := h ⟨[⟨0, []⟩, ⟨1, []⟩, ⟨2, []⟩], 3, rfl, by decide⟩
    ⟨fun _ _ => none, ⟨"", ""⟩, fun _ => 0⟩
    [.viewDidLoad (((∅ : Keychain).save "r" .refreshToken).save "f" .fcmToken),
      .screen ∅ (.page (.reply 0 (.decoded ⟨true, "200", "OK", ⟨[], true, 1⟩⟩))),
      .screen ∅ (.page (.deliver 0)),
      .screen ((∅ : Keychain).save "r" .refreshToken) (.scrollViewDidScroll 0 0 0),
      .screen ∅ (.page (.reply 1 (.decoded ⟨true, "200", "OK", ⟨[], true, 2⟩⟩))),
      .screen ∅ (.page (.deliver 1)),
      .screen ∅ (.page (.reply 0 (.decoded ⟨true, "200", "OK", ⟨[], true, 1⟩⟩))),
      .screen ∅ (.page (.deliver 0)),
      .screen ((∅ : Keychain).save "r" .refreshToken) (.scrollViewDidScroll 0 0 0)]
  revert run
  decide +kernel

end Screens

end TimeCapsule.Home
