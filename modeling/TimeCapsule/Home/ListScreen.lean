import TimeCapsule.Home.HomeSteps
import TimeCapsule.Home.TimeCapsulePreviewCollectionViewCell

/-!
# The collection view and its data source

The handlers of the home screen change `filtered` at once and leave a block on the main queue that
reloads the collection view. The view keeps the number of items that it read at its last reload, and
asks for cells and reports taps for rows below that number at any time, also while a block waits.

`loaded` is a history variable: `filtered` as the last reload found it. As long as no reload is
queued the two are the same (`Fresh`), so a query that comes then finds what the view expects;
`queries_sound` covers every run whose queries find their row as it was loaded.
-/

namespace TimeCapsule.Home
open Foundation

structure ListScreen where
  home : HomeScreen
  reloads : Nat
  count : Nat := 0
  cells : Nat → Option TimeCapsulePreviewCollectionViewCell := fun _ => none
  presented : List Int := []
  loaded : List TimeCapsulePreview := []

inductive ListScreenEvent where
  | home (keychain : Keychain) (e : HomeEvent)
  | reloadData
  | cellForItemAt (row : Nat)
  | didSelectItemAt (row : Nat)

/-! ## Which handlers reload -/

/-- The blocks that the handler of a list leaves on the main queue. -/
def FetchRequest.reloads (r : FetchRequest)
    (response : DataResponse TimeCapsulePreviewResponse) : Nat :=
  match fetchTimeCapsulesResult response with
  | some (.ok _) =>
    match r.completion with
    | .fetchdata => 1
    | .confirmPressed _ => 0
    | .didConfirmDeletion _ => 1
  | some (.error _) => 0
  | none => 0

/-- The blocks that the handler of a page leaves on the main queue. -/
def PageRequest.reloads (_r : PageRequest) (m : TimeCapsulePreviewModel)
    (response : DataResponse TimeCapsulePreviewPaginationResponse) : Nat :=
  match (fetchTimeCapsulesPaginationResult m response).2 with
  | some (.ok _) => 1
  | some (.error _) => 0
  | none => 0

/-- The blocks that a step of the home screen leaves on the main queue. -/
def HomeScreen.reloads (s : HomeScreen) : HomeEvent → Nat
  | .handleTagButtonTap _ => 1
  | .toggleCapsuleViewButton _ => 1
  | .sort _ => 1
  | .fetch traffic => (s.fetches.step traffic).2.elim 0 fun (r, response) => r.reloads response
  | .page traffic =>
    (s.pages.step traffic).2.elim 0 fun (r, response) => r.reloads s.store.model response
  | .viewWillAppear => 0
  | .scrollViewDidScroll _ _ _ => 0
  | .confirmPressed _ => 0
  | .deletion _ => 0

namespace ListScreen

/-- `reloadData`: the cells go, and the number of items is read anew. -/
def reloadData (s : ListScreen) : ListScreen :=
  if 0 < s.reloads then
    { s with
      reloads := s.reloads - 1
      count := s.home.store.model.filtered.length
      cells := fun _ => none
      loaded := s.home.store.model.filtered }
  else
    s

/-- `collectionView(_:cellForItemAt:)`; the subscript traps outside `filtered`. -/
def cellForItemAt (days : Date → Date → Option Int) (s : ListScreen) (row : Nat) :
    Option ListScreen :=
  match s.home.store.model.filtered[row]? with
  | some data => do
    let (cell, process) ←
      TimeCapsulePreviewCollectionViewCell.configuration days data s.home.store.process
    some { s with
      home.store.process := process
      cells := Function.update s.cells row (some cell) }
  | none => none

/-- `collectionView(_:didSelectItemAt:)`; the subscript traps outside `filtered`. -/
def didSelectItemAt (s : ListScreen) (row : Nat) : Option ListScreen :=
  match s.home.store.model.filtered[row]? with
  | some capsulePreview =>
    if capsulePreview.isOpened then
      some { s with presented := s.presented ++ [capsulePreview.id] }
    else
      some s
  | none => none

def step (days : Date → Date → Option Int) (s : ListScreen) : ListScreenEvent → Option ListScreen
  | .home keychain e => do
    let home ← s.home.step keychain e
    some { s with home, reloads := s.reloads + s.home.reloads e }
  | .reloadData => some s.reloadData
  | .cellForItemAt row => if row < s.count then s.cellForItemAt days row else some s
  | .didSelectItemAt row => if row < s.count then s.didSelectItemAt row else some s

/-- A collection view that is going to load for the first time. -/
def appear (home : HomeScreen) : ListScreen := { home, reloads := 1 }

/-! ## Queries -/

/-- A row that the view asks for is in `filtered`, and a tapped cell displays the capsule there. -/
def Sound (s : ListScreen) : ListScreenEvent → Prop
  | .cellForItemAt row => row < s.count → row < s.home.store.model.filtered.length
  | .didSelectItemAt row => row < s.count → ∃ data ∈ s.home.store.model.filtered[row]?,
    ∀ cell ∈ s.cells row, cell.timeCapsulePreview.id = data.id
  | _ => True

/-- A query comes while no reload is queued, or finds its row as it was loaded. -/
def OnTime (s : ListScreen) : ListScreenEvent → Prop
  | .cellForItemAt row | .didSelectItemAt row =>
    s.reloads = 0 ∨ s.home.store.model.filtered[row]? = s.loaded[row]?
  | _ => True

instance (s : ListScreen) : DecidablePred s.Sound
  | .cellForItemAt _ => inferInstanceAs (Decidable (_ → _))
  | .didSelectItemAt row => inferInstanceAs (Decidable (row < s.count →
    ∃ data ∈ s.home.store.model.filtered[row]?, ∀ cell ∈ s.cells row, _ = data.id))
  | .home _ _ | .reloadData => inferInstanceAs (Decidable True)

instance (s : ListScreen) : DecidablePred s.OnTime
  | .cellForItemAt _ | .didSelectItemAt _ => inferInstanceAs (Decidable (_ ∨ _))
  | .home _ _ | .reloadData => inferInstanceAs (Decidable True)

/-- The view knows what was loaded, its cells display it, and nothing has changed since then unless
a reload is queued. -/
structure Fresh (s : ListScreen) : Prop where
  count : s.count = s.loaded.length
  cells : ∀ row, ∀ cell ∈ s.cells row, s.loaded[row]? = some cell.timeCapsulePreview
  loaded : s.reloads = 0 → s.loaded = s.home.store.model.filtered

section Step
variable {days : Date → Date → Option Int} {s t : ListScreen} {home : HomeScreen}
  {keychain : Keychain} {e : HomeEvent}

/-- A handler that leaves no block behind leaves `filtered` as it is. -/
lemma filtered_of_reloads (h : home.step keychain e = some t.home) (none : home.reloads e = 0) :
    t.home.store.model.filtered = home.store.model.filtered := by
  generalize t.home = home' at h
  cases HomeScreen.step_inv h with
  | sends sends => rw [sends.store]
  | deletes => rfl
  | tap he =>
    cases e with
    | handleTagButtonTap | toggleCapsuleViewButton | sort => cases none
    | _ => cases he
  | fetchMoves => rfl
  | @fetchHandled _ fetches r response hw =>
    simp only [HomeScreen.reloads, hw, Option.elim_some] at none
    obtain ⟨token, completion⟩ := r
    cases response with
    | decoded json =>
      cases completion with
      | confirmPressed data =>
        -- the refresh of a deletion assigns `original` alone
        simp only [HomeScreen.fetchHandler, fetchTimeCapsulesResult, HomeScreen.didConfirmDeletion]
        split <;> rfl
      | fetchdata | didConfirmDeletion => cases none
    | _ => rfl
  | pageMoves => rfl
  | @pageHandled _ pages r response hw =>
    simp only [HomeScreen.reloads, hw, Option.elim_some] at none
    cases response with
    | decoded json => cases none
    | _ => rfl
  | deletionMoves => rfl
  | @deletionHandled _ _ r result => cases result <;> rfl

/-- A query on time finds the row as it was loaded. -/
lemma Fresh.row (fresh : s.Fresh) {row : Nat}
    (onTime : s.reloads = 0 ∨ s.home.store.model.filtered[row]? = s.loaded[row]?) :
    s.home.store.model.filtered[row]? = s.loaded[row]? := by
  rcases onTime with none | same
  · rw [fresh.loaded none]
  · exact same

/-- A query on time is sound. -/
lemma sound_of_onTime (fresh : s.Fresh) {e : ListScreenEvent} (onTime : s.OnTime e) : s.Sound e := by
  cases e with
  | home | reloadData => exact trivial
  | cellForItemAt row =>
    intro lt
    rw [fresh.count] at lt
    have found := fresh.row onTime
    rw [List.getElem?_eq_getElem lt] at found
    exact (List.getElem?_eq_some_iff.1 found).1
  | didSelectItemAt row =>
    intro lt
    rw [fresh.count] at lt
    have found := fresh.row onTime
    rw [List.getElem?_eq_getElem lt] at found
    refine ⟨_, found, fun cell hc => ?_⟩
    have displayed := fresh.cells row cell hc
    rw [List.getElem?_eq_getElem lt] at displayed
    exact congrArg TimeCapsulePreview.id (Option.some.inj displayed).symm

/-- Steps whose queries are on time keep the view fresh. -/
lemma step_fresh (s : ListScreen) (e : ListScreenEvent) (fresh : s.Fresh) (onTime : s.OnTime e) :
    Run.After (step days) Fresh s e := by
  intro t ht
  cases e with
  | home keychain e =>
    obtain ⟨home, hs, ht⟩ := Option.bind_eq_some_iff.1 ht
    cases ht
    refine ⟨fresh.count, fresh.cells, fun none => ?_⟩
    obtain ⟨waiting, enqueued⟩ := Nat.add_eq_zero_iff.1 none
    rw [fresh.loaded waiting]
    exact (filtered_of_reloads (t := { s with home }) hs enqueued).symm
  | reloadData =>
    cases ht
    unfold reloadData
    split
    · exact ⟨rfl, fun _ _ hc => absurd hc (Option.not_mem_none _), fun _ => rfl⟩
    · exact fresh
  | cellForItemAt row =>
    simp only [step] at ht
    split at ht
    · unfold cellForItemAt at ht
      split at ht
      · next data found =>
        obtain ⟨⟨cell, process⟩, hc, ht⟩ := Option.bind_eq_some_iff.1 ht
        cases ht
        refine ⟨fresh.count, ?_, fresh.loaded⟩
        intro i c (hi : Function.update s.cells row (some cell) i = some c)
        by_cases same : i = row
        · subst same
          rw [Function.update_self] at hi
          cases hi
          rw [TimeCapsulePreviewCollectionViewCell.configuration_data hc, ← fresh.row onTime, found]
        · rw [Function.update_of_ne same] at hi
          exact fresh.cells i c hi
      · cases ht
    · cases ht
      exact fresh
  | didSelectItemAt row =>
    simp only [step] at ht
    split at ht
    · unfold didSelectItemAt at ht
      split at ht
      · split at ht <;> cases ht <;> exact ⟨fresh.count, fresh.cells, fresh.loaded⟩
      · cases ht
    · cases ht
      exact fresh

end Step

end ListScreen

end TimeCapsule.Home
