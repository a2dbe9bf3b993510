import TimeCapsule.Home.TimeCapsulePreview
import TimeCapsule.Lib.Keyed

/-!
# The capsule store

`Home/Model/TimeCapsulePreviewModel.swift`: the static arrays `original` and `filtered`, the
selection, and the paging position, with the functions that change them. `combineArrays` is
translated loop for loop and then identified with `Keyed.mergeOn`; `filter` is identified with the
restriction of `original` to the capsules that the selection shows.
-/

namespace TimeCapsule.Home
open Foundation

/-- The static state of `TimeCapsulePreviewModel`; a selection is the tag of the button it holds. -/
structure TimeCapsulePreviewModel where
  original : List TimeCapsulePreview := []
  filtered : List TimeCapsulePreview := []
  selectedTag : Option (Fin K.String.tags.length) := none
  selectedState : Option CapsuleToggle := none
  cursor : Int := 0
  hasNext : Bool := true
deriving DecidableEq, Repr

/-- `removeAll(where:)`. -/
def removeAll {α : Type} (p : α → Bool) (l : List α) : List α := l.filter fun x => !p x

/-- The inner loop of `combineArrays`; its `continue` does not leave the loop. -/
def hasId (right : TimeCapsulePreview) (result : List TimeCapsulePreview) : Bool :=
  result.foldl (fun has left => if left.id == right.id then true else has) false

def combineArrays (leftArray rightArray : List TimeCapsulePreview) : List TimeCapsulePreview :=
  rightArray.foldl
    (fun result right => if !hasId right result then result ++ [right] else result) leftArray

/-- `filter { seen.insert($0).inserted }`, with the set `seen` as a list. -/
def insertedOnly {α : Type} [DecidableEq α] : List α → List α → List α
  | _, [] => []
  | seen, x :: xs => if x ∈ seen then insertedOnly seen xs else x :: insertedOnly (x :: seen) xs

def removingDuplicates {α : Type} [DecidableEq α] (l : List α) : List α := insertedOnly [] l

/-- The comparisons of the six sort actions. -/
inductive SortAction where
  | createdDateAsc
  | createdDateDesc
  | deadlineAsc
  | deadlineDesc
  | nameAsc
  | nameDesc
deriving DecidableEq, Repr

/-- `areInIncreasingOrder`, as a sort passes it two entries. -/
def SortAction.lt : SortAction → TimeCapsulePreview → TimeCapsulePreview → Main Bool
  | .createdDateAsc, a, b => do pure (decide ((← a.createdDate) < (← b.createdDate)))
  | .createdDateDesc, a, b => do pure (decide ((← a.createdDate) > (← b.createdDate)))
  | .deadlineAsc, a, b => do pure (decide ((← a.deadlineDate) < (← b.deadlineDate)))
  | .deadlineDesc, a, b => do pure (decide ((← a.deadlineDate) > (← b.deadlineDate)))
  | .nameAsc, a, b => pure (decide (a.title < b.title))
  | .nameDesc, a, b => pure (decide (a.title > b.title))

namespace TimeCapsulePreviewModel

def filterTag (m : TimeCapsulePreviewModel) : TimeCapsulePreviewModel :=
  match m.selectedTag with
  | some tagButton =>
    let tag := K.String.tags.get tagButton
    { m with filtered := removeAll (fun c => c.tagName != tag) m.original }
  | none => { m with filtered := m.original }

def filterState (m : TimeCapsulePreviewModel) : TimeCapsulePreviewModel :=
  match m.selectedState with
  | some selectedButton =>
    if selectedButton.rawValue == 0 then
      { m with filtered := removeAll (fun c => c.isOpened) m.filtered }
    else
      { m with filtered := removeAll (fun c => !c.isOpened) m.filtered }
  | none => m

def filter (m : TimeCapsulePreviewModel) : TimeCapsulePreviewModel := m.filterTag.filterState

def fetchTimeCapsulePreviews (m : TimeCapsulePreviewModel)
    (timeCapsulePreviews : List TimeCapsulePreview) : TimeCapsulePreviewModel :=
  filter { m with
    original := combineArrays m.original timeCapsulePreviews
    filtered := combineArrays m.filtered timeCapsulePreviews }

def removeDuplicate (m : TimeCapsulePreviewModel) : TimeCapsulePreviewModel :=
  { m with
    original := removingDuplicates m.original
    filtered := removingDuplicates m.filtered }

/-- The common body of the six sort functions. -/
def sortBy (action : SortAction) (m : TimeCapsulePreviewModel) : Main TimeCapsulePreviewModel := do
  let original ← EffSort.sort action.lt m.original
  let filtered ← EffSort.sort action.lt m.filtered
  pure (filter { m with original, filtered })

def sortByCreatedDateAsc : TimeCapsulePreviewModel → Main TimeCapsulePreviewModel :=
  sortBy .createdDateAsc

def sortByCreatedDateDesc : TimeCapsulePreviewModel → Main TimeCapsulePreviewModel :=
  sortBy .createdDateDesc

def sortByDeadlineAsc : TimeCapsulePreviewModel → Main TimeCapsulePreviewModel :=
  sortBy .deadlineAsc

def sortByDeadlineDesc : TimeCapsulePreviewModel → Main TimeCapsulePreviewModel :=
  sortBy .deadlineDesc

def sortByNameAsc : TimeCapsulePreviewModel → Main TimeCapsulePreviewModel :=
  sortBy .nameAsc

def sortByNameDesc : TimeCapsulePreviewModel → Main TimeCapsulePreviewModel :=
  sortBy .nameDesc

end TimeCapsulePreviewModel

/-! ## The loops -/

/-- The flag of the inner loop says whether the id occurs. -/
lemma hasId_eq (right : TimeCapsulePreview) (result : List TimeCapsulePreview) :
    hasId right result = decide (right.id ∈ result.map TimeCapsulePreview.id) := by
  -- the flag is generalised: once it is set, no later entry clears it
  have flag : ∀ b, result.foldl (fun has left => if left.id == right.id then true else has) b
      = (b || decide (right.id ∈ result.map TimeCapsulePreview.id)) := by
    induction result with
    | nil => simp
    | cons left result ih =>
      intro b
      rw [List.foldl_cons, ih]
      by_cases e : left.id = right.id
      · simp [e]
      · simp [e, Ne.symm e]
  exact flag false

/-- `combineArrays` is the merge by id that lets the left entries win. -/
theorem combineArrays_eq (l r : List TimeCapsulePreview) :
    combineArrays l r = Keyed.mergeOn TimeCapsulePreview.id l r := by
  rw [← Keyed.foldl_append_eq_mergeOn, combineArrays]
  congr 1
  funext result right
  by_cases h : right.id ∈ result.map TimeCapsulePreview.id <;> simp [hasId_eq, h]

/-- The set of seen entries may be replaced by the list of kept ones. -/
lemma insertedOnly_eq {α : Type} [DecidableEq α] {seen ks : List α} (h : ∀ x, x ∈ seen ↔ x ∈ ks)
    (l : List α) : insertedOnly seen l = Keyed.newOn id ks l := by
  induction l generalizing seen ks with
  | nil => rfl
  | cons x xs ih =>
    by_cases hx : x ∈ seen
    · rw [insertedOnly, if_pos hx, Keyed.newOn_old xs ((h x).1 hx), ih h]
    · rw [insertedOnly, if_neg hx, Keyed.newOn_new xs (mt (h x).2 hx)]
      congr 1
      exact ih fun y => by simp [h, or_comm]

/-- `removingDuplicates` keeps the first of several equal entries. -/
lemma removingDuplicates_eq {α : Type} [DecidableEq α] (l : List α) :
    removingDuplicates l = Keyed.newOn id [] l := insertedOnly_eq (fun _ => Iff.rfl) l

/-- Removing duplicates removes no entry for good. -/
@[simp]
lemma mem_removingDuplicates {α : Type} [DecidableEq α] {l : List α} {x : α} :
    x ∈ removingDuplicates l ↔ x ∈ l := by
  rw [removingDuplicates_eq]
  constructor
  · exact fun h => (Keyed.of_mem_newOn h).1
  · exact fun h => Keyed.mem_newOn_of_unique h List.not_mem_nil fun _ _ e => e

/-- Filtering and removing duplicates commute. -/
lemma insertedOnly_filter {α : Type} [DecidableEq α] (p : α → Bool) (seen l : List α) :
    insertedOnly (seen.filter p) (l.filter p) = (insertedOnly seen l).filter p := by
  induction l generalizing seen with
  | nil => rfl
  | cons x xs ih =>
    cases hp : p x with
    | false =>
      have skip : (x :: seen).filter p = seen.filter p := List.filter_cons_of_neg (by simp [hp])
      rw [List.filter_cons_of_neg (by simp [hp]), insertedOnly]
      split
      · exact ih seen
      · rw [List.filter_cons_of_neg (by simp [hp]), ← ih (x :: seen), skip]
    | true =>
      have keep : (x :: seen).filter p = x :: seen.filter p := List.filter_cons_of_pos hp
      have mem : x ∈ seen.filter p ↔ x ∈ seen := by simp [hp]
      rw [List.filter_cons_of_pos hp, insertedOnly, insertedOnly]
      by_cases hx : x ∈ seen
      · rw [if_pos hx, if_pos (mem.2 hx), ih seen]
      · rw [if_neg hx, if_neg (mt mem.1 hx), List.filter_cons_of_pos hp, ← ih (x :: seen), keep]

/-- Removing duplicates thins a list out. -/
lemma removingDuplicates_sublist {α : Type} [DecidableEq α] (l : List α) :
    List.Sublist (removingDuplicates l) l := by
  rw [removingDuplicates_eq]
  exact Keyed.newOn_sublist

/-- A list without duplicates stays as it is. -/
lemma removingDuplicates_of_nodup {α : Type} [DecidableEq α] {l : List α} (h : l.Nodup) :
    removingDuplicates l = l := by
  rw [removingDuplicates_eq]
  exact Keyed.newOn_of_nodup (by simpa using h) fun _ _ => List.not_mem_nil

/-! ## The selection -/

/-- A capsule is shown if its tag is the selected one and its state the selected one; no selection
excludes nothing. -/
def Shows (tag : Option (Fin K.String.tags.length)) (state : Option CapsuleToggle)
    (c : TimeCapsulePreview) : Prop :=
  (∀ t ∈ tag, c.tagName = K.String.tags.get t) ∧ ∀ s ∈ state, c.isOpened = decide (s = .opend)

instance (tag : Option (Fin K.String.tags.length)) (state : Option CapsuleToggle) :
    DecidablePred (Shows tag state) := fun c =>
  inferInstanceAs (Decidable ((∀ t ∈ tag, c.tagName = K.String.tags.get t) ∧
    ∀ s ∈ state, c.isOpened = decide (s = .opend)))

namespace TimeCapsulePreviewModel
variable (m : TimeCapsulePreviewModel)

/-- What the list screen should show of a list of capsules under the current selection. -/
def view (l : List TimeCapsulePreview) : List TimeCapsulePreview :=
  l.filter fun c => decide (Shows m.selectedTag m.selectedState c)

/-- `filterTag` starts over from `original` and keeps the selected tag. -/
lemma filterTag_eq : m.filterTag = { m with
    filtered := m.original.filter fun c =>
      decide (∀ t ∈ m.selectedTag, c.tagName = K.String.tags.get t) } := by
  unfold filterTag
  cases m.selectedTag with
  | none => simp
  | some t =>
    simp only [removeAll, Option.mem_some_iff, forall_eq', bne, Bool.not_not]
    rfl

/-- `filterState` narrows `filtered` to the selected state. -/
lemma filterState_eq : m.filterState = { m with
    filtered := m.filtered.filter fun c =>
      decide (∀ s ∈ m.selectedState, c.isOpened = decide (s = .opend)) } := by
  obtain ⟨original, filtered, tag, state, cursor, hasNext⟩ := m
  cases state with
  | none => simp [filterState]
  | some s => cases s <;> simp [filterState, removeAll, CapsuleToggle.rawValue]

/-- `filter` replaces `filtered` and nothing else. -/
lemma filter_eq : m.filter = { m with filtered := m.view m.original } := by
  rw [filter, filterState_eq, filterTag_eq]
  simp only [List.filter_filter, view]
  congr 2
  funext c
  rw [Bool.and_comm, ← Bool.decide_and]
  rfl

@[simp] lemma filter_original : m.filter.original = m.original := by rw [filter_eq]
@[simp] lemma filter_selectedTag : m.filter.selectedTag = m.selectedTag := by rw [filter_eq]
@[simp] lemma filter_selectedState : m.filter.selectedState = m.selectedState := by rw [filter_eq]
@[simp] lemma filter_cursor : m.filter.cursor = m.cursor := by rw [filter_eq]
@[simp] lemma filter_hasNext : m.filter.hasNext = m.hasNext := by rw [filter_eq]
@[simp] lemma filter_filtered : m.filter.filtered = m.view m.original := by rw [filter_eq]

end TimeCapsulePreviewModel
end TimeCapsule.Home
