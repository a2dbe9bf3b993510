import TimeCapsule.App.App
import TimeCapsule.Home.Distinct
import TimeCapsule.Lib.Refinement

/-!
# The capsule book

What the two arrays are for, without the arrays: under every id the book has the capsule as it was
first brought since the list was last replaced, and it shows the entries that the selection wants.
The order of the arrays, the loops over them and the sorts do not occur here.

As long as no answer lists an id twice, every run of the store is a run of the book
(`refines_book`), and so is every run of the app, whatever the order of its answers
(`App.book_run`).
-/

namespace TimeCapsule.Home
open Foundation

/-- The entries by id, the shown ones among them, the selection and the paging position. -/
structure Book where
  entries : Int → Option TimeCapsulePreview := fun _ => none
  shown : Int → Option TimeCapsulePreview := fun _ => none
  selectedTag : Option (Fin K.String.tags.length) := none
  selectedState : Option CapsuleToggle := none
  cursor : Int := 0
  hasNext : Bool := true

/-- The capsules of a list by id. -/
def listed (l : List TimeCapsulePreview) (id : Int) : Option TimeCapsulePreview :=
  Keyed.lookup TimeCapsulePreview.id id l

/-- Select what is not selected, and cancel what is. -/
def toggled {α : Type} [DecidableEq α] (selected : Option α) (sender : α) : Option α :=
  if selected = some sender then none else some sender

namespace Book

/-- Show the entries that the selection wants. -/
def refilter (b : Book) : Book :=
  { b with shown := fun id => (b.entries id).filter fun c =>
      decide (Shows b.selectedTag b.selectedState c) }

def next (b : Book) : StoreEvent → Book
  | .handleTagButtonTap sender => refilter { b with selectedTag := toggled b.selectedTag sender }
  | .toggleCapsuleViewButton sender =>
    refilter { b with selectedState := toggled b.selectedState sender }
  | .sort _ => b.refilter
  | .fetchTimeCapsulePreviews timeCapsules =>
    refilter { b with entries := fun id => (b.entries id).or (listed timeCapsules id) }
  | .removeDuplicate => b
  | .firstFetch timeCapsules => refilter { b with entries := listed timeCapsules }
  | .confirmedDeletion timeCapsules => { b with entries := listed timeCapsules }
  | .pageInfo hasNext cursor => { b with hasNext := b.hasNext && hasNext, cursor }

def step (b : Book) (e : StoreEvent) : Option Book := some (b.next e)

end Book

/-- The book that the arrays keep. -/
def TimeCapsulePreviewModel.book (m : TimeCapsulePreviewModel) : Book where
  entries := listed m.original
  shown := listed m.filtered
  selectedTag := m.selectedTag
  selectedState := m.selectedState
  cursor := m.cursor
  hasNext := m.hasNext

def Store.book (s : Store) : Book := s.model.book

namespace TimeCapsulePreviewModel
variable {m : TimeCapsulePreviewModel}

/-- Filtering the arrays refilters the book. -/
lemma book_filter (distinct : Distinct m.original) : m.filter.book = m.book.refilter := by
  have shown : listed (m.view m.original) = m.book.refilter.shown := by
    funext id
    exact Keyed.lookup_filter distinct _
  rw [filter_eq]
  simp only [book, Book.refilter, Book.mk.injEq, true_and, and_true]
  exact shown

/-- The tag button toggles the selected tag. -/
lemma handleTagButtonTap_eq (sender : Fin K.String.tags.length) :
    m.handleTagButtonTap sender =
      filter { m with selectedTag := toggled m.selectedTag sender } := by
  unfold handleTagButtonTap toggled
  by_cases same : m.selectedTag = some sender
  · simp [same]
  · simp [same]

/-- The state button toggles the selected state. -/
lemma toggleCapsuleViewButton_eq (sender : CapsuleToggle) :
    m.toggleCapsuleViewButton sender =
      filter { m with selectedState := toggled m.selectedState sender } := by
  unfold toggleCapsuleViewButton toggled
  cases m.selectedState with
  | none => rfl
  | some s => cases s <;> cases sender <;> rfl

/-- A merge keeps the entries of the book and adds the ones that it lacks. -/
lemma listed_combineArrays (l r : List TimeCapsulePreview) :
    listed (combineArrays l r) = fun id => (listed l id).or (listed r id) := by
  funext id
  rw [listed, combineArrays_eq, Keyed.lookup_mergeOn]
  rfl

end TimeCapsulePreviewModel

namespace Store

/-- A step of the store is a step of the book. -/
lemma step_book {s t : Store} {e : StoreEvent} (distinct : s.DistinctIds)
    (answer : Distinct e.capsules) (h : s.step e = some t) : s.book.next e = t.book := by
  obtain ⟨original, filtered⟩ := distinct
  cases e with
  | handleTagButtonTap sender =>
    cases h
    show s.book.next _ = (s.model.handleTagButtonTap sender).book
    rw [TimeCapsulePreviewModel.handleTagButtonTap_eq, TimeCapsulePreviewModel.book_filter]
    · rfl
    · exact original
  | toggleCapsuleViewButton sender =>
    cases h
    show s.book.next _ = (s.model.toggleCapsuleViewButton sender).book
    rw [TimeCapsulePreviewModel.toggleCapsuleViewButton_eq, TimeCapsulePreviewModel.book_filter]
    · rfl
    · exact original
  | sort action =>
    obtain ⟨⟨m, q⟩, hm, h⟩ := Option.bind_eq_some_iff.1 h
    cases h
    rw [TimeCapsulePreviewModel.perform_eq] at hm
    obtain ⟨sorted, shown, perm, rfl⟩ := TimeCapsulePreviewModel.sortBy_inv hm
    have same : listed sorted = listed s.model.original := by
      funext id
      exact Keyed.lookup_perm original perm
    show s.book.next _ = (TimeCapsulePreviewModel.filter _).book
    rw [TimeCapsulePreviewModel.book_filter]
    · simp only [Book.next, Book.refilter, Store.book, TimeCapsulePreviewModel.book, same]
      rfl
    · exact original.perm perm
  | fetchTimeCapsulePreviews r =>
    cases h
    show s.book.next _ = (TimeCapsulePreviewModel.filter _).book
    rw [TimeCapsulePreviewModel.book_filter]
    · simp only [Book.next, Book.refilter, Store.book, TimeCapsulePreviewModel.book,
        TimeCapsulePreviewModel.listed_combineArrays]
      rfl
    · show Distinct (combineArrays s.model.original r)
      rw [combineArrays_eq]
      exact Keyed.nodup_mergeOn original
  | removeDuplicate =>
    cases h
    have original' := removingDuplicates_of_nodup (List.Nodup.of_map _ original)
    have filtered' := removingDuplicates_of_nodup (List.Nodup.of_map _ filtered)
    simp only [Book.next, Store.book, TimeCapsulePreviewModel.removeDuplicate, original', filtered']
  | firstFetch r =>
    cases h
    show s.book.next _ = (TimeCapsulePreviewModel.filter _).book
    rw [TimeCapsulePreviewModel.book_filter]
    · rfl
    · exact answer
  | confirmedDeletion r =>
    cases h
    rfl
  | pageInfo hasNext cursor =>
    cases h
    cases hasNext <;>
      simp [Book.next, Store.book, TimeCapsulePreviewModel.book, TimeCapsulePreviewModel.pageInfo]

/-- The store refines the book, as long as no answer lists an id twice. -/
theorem refines_book : Run.Refines step Book.step book (fun _ e => [e]) DistinctIds
    (fun _ e => Distinct e.capsules) where
  keep := step_distinctIds
  sim s e distinct answer t ht := by
    rw [Run.exec_cons, Book.step, step_book distinct answer ht]
    rfl

/-- An array that lists no id twice holds just what its book has. -/
lemma mem_iff_listed {l : List TimeCapsulePreview} (distinct : Distinct l)
    {c : TimeCapsulePreview} : c ∈ l ↔ listed l c.id = some c := Keyed.mem_iff_lookup distinct

end Store

end TimeCapsule.Home

namespace TimeCapsule.App
open Foundation Home

/-- What a step of the app does to the store. -/
def storeEvents (a : App) : AppEvent → List StoreEvent
  | .session _ => []
  | .home e => a.home.storeEvents e

/-- No list that is handed over at this step has an id twice. -/
def AnswersDistinct (a : App) (e : AppEvent) : Prop :=
  ∀ event ∈ a.storeEvents e, Distinct event.capsules

instance (a : App) : DecidablePred a.AnswersDistinct := fun e =>
  inferInstanceAs (Decidable (∀ event ∈ a.storeEvents e, Distinct event.capsules))

/-- The app refines the store. -/
lemma refines_store : Run.Refines step Store.step (fun a => a.home.store) storeEvents
    (fun _ => True) AnswersDistinct where
  keep _ _ _ _ _ _ := trivial
  sim a e _ _ b hb := by
    cases step_inv hb with
    | session _ sends => exact congrArg some sends.store.symm
    | home hs => exact HomeScreen.step_store hs

/-- The events of the book in a run of the app. -/
def bookEvents (a : App) (es : List AppEvent) : List StoreEvent :=
  Run.traces step (fun a e => Run.traces Store.step (fun _ e => [e]) a.home.store (a.storeEvents e))
    a es

/-- Every run of the app whose answers list no id twice is a run of the book from the empty one to
the book of the store, and the two arrays hold just its entries and its shown entries. -/
theorem book_run (keychain : Keychain) (p : Process) (es : List AppEvent) (a : App)
    (answers : Run.Steps step AnswersDistinct (launch keychain p) es)
    (run : Run.exec step (launch keychain p) es = some a) :
    Run.exec Book.step {} (bookEvents (launch keychain p) es) = some a.home.store.book ∧
      (∀ c, c ∈ a.home.store.model.original ↔ a.home.store.book.entries c.id = some c) ∧
      ∀ c, c ∈ a.home.store.model.filtered ↔ a.home.store.book.shown c.id = some c := by
  have refines := refines_store.comp Store.refines_book
    fun _ _ _ c => Run.Steps.of_events c
  have store : (launch keychain p).home.store = .launch p := (launch_sends keychain p).store
  have init : True ∧ (launch keychain p).home.store.DistinctIds := by
    rw [store]
    exact ⟨trivial, List.nodup_nil, List.nodup_nil⟩
  have empty : (launch keychain p).home.store.book = {} := by
    rw [store]
    rfl
  obtain ⟨_, original, filtered⟩ := refines.keeps init answers run
  have abstract := refines.run init answers run
  simp only [Function.comp_apply, empty] at abstract
  exact ⟨abstract, fun _ => Store.mem_iff_listed original, fun _ => Store.mem_iff_listed filtered⟩

/-- A list is delivered, a tag is selected, and a refresh brings another version of the capsule. -/
theorem book_run_refreshed :
    ∃ keychain p es a, Run.exec step (launch keychain p) es = some a ∧
      a.home.store.book.entries 1 = some ⟨1, 1, false, "t", "가족", "", "", ""⟩ ∧
      Run.exec Book.step {} (bookEvents (launch keychain p) es) = some a.home.store.book ∧
      (∀ c, c ∈ a.home.store.model.original ↔ a.home.store.book.entries c.id = some c) ∧
      ∀ c, c ∈ a.home.store.model.filtered ↔ a.home.store.book.shown c.id = some c :=
  ⟨(∅ : Keychain).save "r" .refreshToken, ⟨fun _ _ => none, ⟨"", ""⟩, fun _ => 0⟩,
    [.home (.fetch (.reply 0
        (.decoded ⟨true, "200", "OK", [⟨1, 1, false, "t", "가족", "", "", ""⟩]⟩))),
      .home (.fetch (.deliver 0)), .home (.handleTagButtonTap ⟨6, by decide⟩),
      .home .viewWillAppear, .home (.fetch (.reply 0
        (.decoded ⟨true, "200", "OK", [⟨1, 1, true, "t", "기억", "", "", ""⟩]⟩))),
      .home (.fetch (.deliver 0))], _, rfl, by decide, book_run _ _ _ _ (by decide) rfl⟩

end TimeCapsule.App
