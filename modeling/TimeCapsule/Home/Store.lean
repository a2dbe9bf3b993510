import TimeCapsule.Home.TimeCapsulePreviewModel
import TimeCapsule.Lib.Run

/-!
# The store as a state machine

The main-queue handlers that touch the capsule store, one event each, over any sequence of them:
the tag and state buttons of `HomeViewController`, the six sort actions, the merging fetches, the
page handler of `viewDidLoad`, the refresh of `DeletionAlertViewController`, and the paging position
that the page service stores.

All of them but one end with `filter` or apply the same change to both arrays, so `filtered` is the
view of `original` afterwards. The refresh of a confirmed deletion assigns `original` alone;
`view_kept_iff` says exactly which runs this spoils.
-/

namespace TimeCapsule.Home
open Foundation

/-- The store within the process. -/
structure Store where
  model : TimeCapsulePreviewModel
  process : Process

inductive StoreEvent where
  | handleTagButtonTap (sender : Fin K.String.tags.length)
  | toggleCapsuleViewButton (sender : CapsuleToggle)
  | sort (action : SortAction)
  | fetchTimeCapsulePreviews (timeCapsules : List TimeCapsulePreview)
  | removeDuplicate
  | firstFetch (timeCapsules : List TimeCapsulePreview)
  | confirmedDeletion (timeCapsules : List TimeCapsulePreview)
  | pageInfo (hasNext : Bool) (cursor : Int)
deriving DecidableEq, Repr

/-- The six sort functions by their menu entry. -/
def SortAction.perform : SortAction → TimeCapsulePreviewModel → Main TimeCapsulePreviewModel
  | .createdDateAsc => TimeCapsulePreviewModel.sortByCreatedDateAsc
  | .createdDateDesc => TimeCapsulePreviewModel.sortByCreatedDateDesc
  | .deadlineAsc => TimeCapsulePreviewModel.sortByDeadlineAsc
  | .deadlineDesc => TimeCapsulePreviewModel.sortByDeadlineDesc
  | .nameAsc => TimeCapsulePreviewModel.sortByNameAsc
  | .nameDesc => TimeCapsulePreviewModel.sortByNameDesc

namespace TimeCapsulePreviewModel

/-- The store's part of `HomeViewController.handleTagButtonTap`. -/
def handleTagButtonTap (m : TimeCapsulePreviewModel) (sender : Fin K.String.tags.length) :
    TimeCapsulePreviewModel :=
  if m.selectedTag = none ∨ m.selectedTag ≠ some sender then
    filter { m with selectedTag := some sender }
  else
    filter { m with selectedTag := none }

/-- The store's part of `HomeViewController.toggleCapsuleViewButton`. -/
def toggleCapsuleViewButton (m : TimeCapsulePreviewModel) (sender : CapsuleToggle) :
    TimeCapsulePreviewModel :=
  if m.selectedState = none ∨ m.selectedState.map (·.rawValue) ≠ some sender.rawValue then
    filter { m with selectedState := some sender }
  else
    filter { m with selectedState := none }

/-- The page handler in `HomeViewController.viewDidLoad` ("First Fetch"). -/
def firstFetch (m : TimeCapsulePreviewModel) (timeCapsules : List TimeCapsulePreview) :
    TimeCapsulePreviewModel :=
  filter { m with original := timeCapsules, filtered := timeCapsules }

/-- The refresh handler in `DeletionAlertViewController.confirmPressed`. -/
def confirmedDeletion (m : TimeCapsulePreviewModel) (timeCapsules : List TimeCapsulePreview) :
    TimeCapsulePreviewModel :=
  -- `filtered` is left to the refresh that `didConfirmDeletion` sends
  { m with original := timeCapsules }

/-- What the page service stores of a page before it hands the capsules on. -/
def pageInfo (m : TimeCapsulePreviewModel) (hasNext : Bool) (cursor : Int) :
    TimeCapsulePreviewModel :=
  { m with hasNext := if !hasNext then false else m.hasNext, cursor }

end TimeCapsulePreviewModel

namespace Store

def step (s : Store) : StoreEvent → Option Store
  | .handleTagButtonTap sender => some { s with model := s.model.handleTagButtonTap sender }
  | .toggleCapsuleViewButton sender =>
    some { s with model := s.model.toggleCapsuleViewButton sender }
  | .sort action => do
    let (model, process) ← action.perform s.model s.process
    some ⟨model, process⟩
  | .fetchTimeCapsulePreviews timeCapsules =>
    some { s with model := s.model.fetchTimeCapsulePreviews timeCapsules }
  | .removeDuplicate => some { s with model := s.model.removeDuplicate }
  | .firstFetch timeCapsules => some { s with model := s.model.firstFetch timeCapsules }
  | .confirmedDeletion timeCapsules =>
    some { s with model := s.model.confirmedDeletion timeCapsules }
  | .pageInfo hasNext cursor => some { s with model := s.model.pageInfo hasNext cursor }

/-- The store of a process that has just been launched. -/
def launch (p : Process) : Store := ⟨{}, p⟩

end Store

/-! ## What the handlers do -/

namespace TimeCapsulePreviewModel
variable {m : TimeCapsulePreviewModel}

/-- A sort permutes `original` and filters it anew. -/
lemma sortBy_inv {action : SortAction} {m' : TimeCapsulePreviewModel} {p q : Process}
    (h : sortBy action m p = some (m', q)) :
    ∃ original filtered, original.Perm m.original ∧ m' = filter { m with original, filtered } := by
  obtain ⟨original, p1, ho, h⟩ := EffSort.bind_eq_some.1 h
  obtain ⟨filtered, p2, _, h⟩ := EffSort.bind_eq_some.1 h
  cases EffSort.pure_eq_some.1 h
  exact ⟨original, filtered, EffSort.sort_perm ho, rfl⟩

/-- Every sort action is an instance of `sortBy`. -/
lemma perform_eq (action : SortAction) : action.perform = sortBy action := by
  cases action <;> rfl

/-- The tag button changes the selected tag and filters. -/
lemma handleTagButtonTap_inv (sender : Fin K.String.tags.length) :
    ∃ selectedTag, m.handleTagButtonTap sender = filter { m with selectedTag } := by
  unfold handleTagButtonTap
  split
  · exact ⟨_, rfl⟩
  · exact ⟨_, rfl⟩

/-- The state button changes the selected state and filters. -/
lemma toggleCapsuleViewButton_inv (sender : CapsuleToggle) :
    ∃ selectedState, m.toggleCapsuleViewButton sender = filter { m with selectedState } := by
  unfold toggleCapsuleViewButton
  split
  · exact ⟨_, rfl⟩
  · exact ⟨_, rfl⟩

@[simp]
lemma fetchTimeCapsulePreviews_original (r : List TimeCapsulePreview) :
    (m.fetchTimeCapsulePreviews r).original =
      Keyed.mergeOn TimeCapsulePreview.id m.original r := by
  rw [fetchTimeCapsulePreviews, filter_original, combineArrays_eq]

@[simp]
lemma fetchTimeCapsulePreviews_filtered (r : List TimeCapsulePreview) :
    (m.fetchTimeCapsulePreviews r).filtered = m.view (m.fetchTimeCapsulePreviews r).original := by
  rw [fetchTimeCapsulePreviews, filter_filtered, filter_original]
  rfl

@[simp]
lemma firstFetch_original (r : List TimeCapsulePreview) : (m.firstFetch r).original = r := by
  rw [firstFetch, filter_original]

end TimeCapsulePreviewModel

namespace Store

/-- What an event can do to the store: filter a store with another array or selection, remove
duplicates, assign `original`, or move the paging position. -/
inductive Change (m : TimeCapsulePreviewModel) : StoreEvent → TimeCapsulePreviewModel → Prop where
  | tag {sender selectedTag} :
    Change m (.handleTagButtonTap sender) (TimeCapsulePreviewModel.filter { m with selectedTag })
  | state {sender selectedState} :
    Change m (.toggleCapsuleViewButton sender)
      (TimeCapsulePreviewModel.filter { m with selectedState })
  | sort {action original filtered} :
    original.Perm m.original →
    Change m (.sort action) (TimeCapsulePreviewModel.filter { m with original, filtered })
  | fetch {r} :
    Change m (.fetchTimeCapsulePreviews r) (m.fetchTimeCapsulePreviews r)
  | removeDuplicate :
    Change m .removeDuplicate m.removeDuplicate
  | firstFetch {r} :
    Change m (.firstFetch r) (m.firstFetch r)
  | confirmedDeletion {r} :
    Change m (.confirmedDeletion r) (m.confirmedDeletion r)
  | pageInfo {hasNext cursor} :
    Change m (.pageInfo hasNext cursor) (m.pageInfo hasNext cursor)

/-- Inversion of `step`. -/
lemma step_change {s t : Store} {e : StoreEvent} (h : s.step e = some t) :
    Change s.model e t.model := by
  cases e with
  | handleTagButtonTap sender =>
    cases h
    obtain ⟨tag, e⟩ := TimeCapsulePreviewModel.handleTagButtonTap_inv (m := s.model) sender
    rw [e]
    exact .tag
  | toggleCapsuleViewButton sender =>
    cases h
    obtain ⟨state, e⟩ := TimeCapsulePreviewModel.toggleCapsuleViewButton_inv (m := s.model) sender
    rw [e]
    exact .state
  | sort action =>
    obtain ⟨⟨m, q⟩, hm, h⟩ := Option.bind_eq_some_iff.1 h
    cases h
    rw [TimeCapsulePreviewModel.perform_eq] at hm
    obtain ⟨original, filtered, perm, rfl⟩ := TimeCapsulePreviewModel.sortBy_inv hm
    exact .sort perm
  | fetchTimeCapsulePreviews r => cases h; exact .fetch
  | removeDuplicate => cases h; exact .removeDuplicate
  | firstFetch r => cases h; exact .firstFetch
  | confirmedDeletion r => cases h; exact .confirmedDeletion
  | pageInfo hasNext cursor => cases h; exact .pageInfo

/-! ## The view -/

/-- The displayed list is the part of `original` that the selection shows. -/
def Viewed (s : Store) : Prop := s.model.filtered = s.model.view s.model.original

instance : DecidablePred Viewed := fun s =>
  inferInstanceAs (Decidable (s.model.filtered = s.model.view s.model.original))

/-- The refresh of a deletion brings, as far as the selection shows it, the list that `original`
holds already. -/
def RefreshAgrees (s : Store) : StoreEvent → Prop
  | .confirmedDeletion timeCapsules => s.model.view timeCapsules = s.model.view s.model.original
  | _ => True

instance (s : Store) : DecidablePred s.RefreshAgrees
  | .confirmedDeletion _ => inferInstanceAs (Decidable (_ = _))
  | .handleTagButtonTap _ | .toggleCapsuleViewButton _ | .sort _ | .fetchTimeCapsulePreviews _
  | .removeDuplicate | .firstFetch _ | .pageInfo _ _ => inferInstanceAs (Decidable True)

/-- Whatever `filter` returns is viewed. -/
lemma viewed_filter (m : TimeCapsulePreviewModel) :
    m.filter.filtered = m.filter.view m.filter.original := by
  simp [TimeCapsulePreviewModel.view]

/-- Duplicates are removed from the view as they are from `original`. -/
lemma viewed_removeDuplicate {m : TimeCapsulePreviewModel} (h : m.filtered = m.view m.original) :
    m.removeDuplicate.filtered = m.removeDuplicate.view m.removeDuplicate.original := by
  show removingDuplicates m.filtered = m.view (removingDuplicates m.original)
  rw [h]
  exact insertedOnly_filter _ [] m.original

/-- A step keeps the view just when it is not a refresh that changes what is to be shown. -/
lemma step_viewed_iff (s : Store) (e : StoreEvent) (h : s.Viewed) :
    Run.After step Viewed s e ↔ s.RefreshAgrees e := by
  constructor
  · intro after
    cases e with
    | confirmedDeletion r =>
      have shown : s.model.filtered = s.model.view r := after _ rfl
      exact shown.symm.trans h
    | _ => exact trivial
  · intro agrees t ht
    have change := step_change ht
    rw [Viewed]
    generalize t.model = m at change
    cases change with
    | tag => exact viewed_filter _
    | state => exact viewed_filter _
    | sort => exact viewed_filter _
    | fetch => exact viewed_filter _
    | removeDuplicate => exact viewed_removeDuplicate h
    | firstFetch => exact viewed_filter _
    | confirmedDeletion =>
      -- the one handler that writes `original` and does not filter
      exact h.trans agrees.symm
    | pageInfo => exact h

/-- From launch on, the list on screen is the view of `original` after every step just when every
refresh of a deletion brings what is shown already. -/
theorem view_kept_iff (p : Process) (es : List StoreEvent) :
    Run.Always step Viewed (launch p) es ↔ Run.Steps step RefreshAgrees (launch p) es :=
  Run.always_iff_steps step_viewed_iff rfl

/-- One capsule, listed by a fetch and deleted afterwards: the refresh of the deletion empties
`original`, and the capsule stays on screen. -/
theorem view_not_kept :
    ¬ ∀ (p : Process) (es : List StoreEvent), Run.Always step Viewed (launch p) es := by
  intro h
  have run := h ⟨fun _ _ => none, ⟨"", ""⟩, fun _ => 0⟩
    [.fetchTimeCapsulePreviews [⟨1, 1, false, "t", "가족", "", "", ""⟩], .confirmedDeletion []]
  revert run
  decide

end Store

end TimeCapsule.Home
