import TimeCapsule.Foundation.Keychain
import TimeCapsule.Home.Store

/-!
# The buttons of the home view

How the tag buttons and the two state buttons of `HomeView` look, with the handlers that change
their appearance together with the selection. The selection is static and the appearance belongs to
a view, so a scene connection that builds a new view starts over with the appearance only.

`Highlights` is the agreement of the two. A tap keeps it; `highlights_iff` says which connections
do.
-/

namespace TimeCapsule.Home
open Foundation

/-- The colors of the buttons. -/
inductive ButtonColor where
  | theme
  | white
  | gray9
  | gray11
  | available
  | unavailable
deriving DecidableEq, Repr

/-- How a button looks; `foreground` is the tint of a tag button and the title color of the
others. -/
structure Appearance where
  backgroundColor : ButtonColor
  foreground : ButtonColor
deriving DecidableEq, Repr

instance : Fintype CapsuleToggle := ⟨{.opend, .closed}, fun button => by cases button <;> decide⟩

/-- The buttons of the view; a tag button is known by its tag. -/
structure HomeView where
  tagButtons : Fin K.String.tags.length → Appearance := fun _ => ⟨.gray11, .gray9⟩
  onlyOpened : Appearance := ⟨.white, .gray9⟩
  onlyClosed : Appearance := ⟨.gray11, .gray9⟩

namespace HomeView

/-- The state button with a tag. -/
def stateButton (view : HomeView) : CapsuleToggle → Appearance
  | .opend => view.onlyOpened
  | .closed => view.onlyClosed

def setStateButton (view : HomeView) (button : CapsuleToggle) (appearance : Appearance) : HomeView :=
  match button with
  | .opend => { view with onlyOpened := appearance }
  | .closed => { view with onlyClosed := appearance }

/-- The appearance that `updateTagButtonAppearance` gives a button. -/
def tagAppearance (isSelected : Bool) : Appearance where
  backgroundColor := if isSelected then .theme else .white
  foreground := if isSelected then .white else .gray9

def updateTagButtonAppearance (view : HomeView) (sender : Fin K.String.tags.length)
    (isSelected : Bool) : HomeView :=
  { view with tagButtons := Function.update view.tagButtons sender (tagAppearance isSelected) }

/-- The appearance that `toggleCapsuleViewButton` gives the button it selects. -/
def selectedAppearance (sender : CapsuleToggle) : Appearance where
  backgroundColor := if sender.rawValue == 0 then .unavailable else .available
  foreground := .white

/-- The view's part of `HomeViewController.handleTagButtonTap`. -/
def handleTagButtonTap (view : HomeView) (m : TimeCapsulePreviewModel)
    (sender : Fin K.String.tags.length) : HomeView :=
  if m.selectedTag = none ∨ m.selectedTag ≠ some sender then
    { view with tagButtons := fun button => tagAppearance (button == sender) }
  else
    view.updateTagButtonAppearance sender false

/-- The view's part of `HomeViewController.toggleCapsuleViewButton`. -/
def toggleCapsuleViewButton (view : HomeView) (m : TimeCapsulePreviewModel)
    (sender : CapsuleToggle) : HomeView :=
  let other : CapsuleToggle := if sender.rawValue == 0 then .opend else .closed
  if m.selectedState = none ∨ m.selectedState.map (·.rawValue) ≠ some sender.rawValue then
    (view.setStateButton sender (selectedAppearance sender)).setStateButton other ⟨.white, .gray9⟩
  else
    (view.setStateButton sender ⟨.white, .gray9⟩).setStateButton other ⟨.white, .gray9⟩

/-- A tag button is highlighted exactly if its tag is selected. -/
def HighlightsTag (view : HomeView) (m : TimeCapsulePreviewModel) : Prop :=
  ∀ tag, view.tagButtons tag = tagAppearance true ↔ m.selectedTag = some tag

/-- A state button is highlighted exactly if its state is selected. -/
def HighlightsState (view : HomeView) (m : TimeCapsulePreviewModel) : Prop :=
  ∀ button, view.stateButton button = selectedAppearance button ↔
    m.selectedState.map (·.rawValue) = some button.rawValue

instance (view : HomeView) : DecidablePred view.HighlightsTag := fun _ =>
  inferInstanceAs (Decidable (∀ _, _ ↔ _))

instance (view : HomeView) : DecidablePred view.HighlightsState := fun _ =>
  inferInstanceAs (Decidable (∀ _, _ ↔ _))

end HomeView

/-- The static model, and the home view on screen if there is one. -/
structure HomeWindow where
  model : TimeCapsulePreviewModel := {}
  homeView : Option HomeView := none

inductive HomeWindowEvent where
  | willConnect (keychain : Keychain)
  | handleTagButtonTap (sender : Fin K.String.tags.length)
  | toggleCapsuleViewButton (sender : CapsuleToggle)

namespace HomeWindow

/-- A scene connection finds a token, and so builds a home screen. -/
def BuildsHome (keychain : Keychain) : Prop := ∃ token ∈ keychain.load .refreshToken, token ≠ ""

instance : DecidablePred BuildsHome := fun _ => inferInstanceAs (Decidable (∃ _ ∈ _, _))

/-- One event; only the buttons of a view on screen can be tapped. -/
def step (s : HomeWindow) : HomeWindowEvent → Option HomeWindow
  | .willConnect keychain =>
    if BuildsHome keychain then some { s with homeView := some {} }
    else some { s with homeView := none }
  | .handleTagButtonTap sender =>
    match s.homeView with
    | some view => some {
        model := s.model.handleTagButtonTap sender
        homeView := some (view.handleTagButtonTap s.model sender) }
    | none => some s
  | .toggleCapsuleViewButton sender =>
    match s.homeView with
    | some view => some {
        model := s.model.toggleCapsuleViewButton sender
        homeView := some (view.toggleCapsuleViewButton s.model sender) }
    | none => some s

/-- The view on screen highlights the selection and nothing else. -/
def Highlights (s : HomeWindow) : Prop :=
  ∀ view ∈ s.homeView, view.HighlightsTag s.model ∧ view.HighlightsState s.model

/-- A connection builds a home screen only while nothing is selected. -/
def ConnectsUnselected (s : HomeWindow) : HomeWindowEvent → Prop
  | .willConnect keychain => BuildsHome keychain →
    s.model.selectedTag = none ∧ s.model.selectedState = none
  | _ => True

instance : DecidablePred Highlights := fun s =>
  inferInstanceAs (Decidable (∀ view ∈ s.homeView, _ ∧ _))

end HomeWindow

/-! ## One tap -/

namespace HomeView
variable {view : HomeView} {m : TimeCapsulePreviewModel}

/-- Only the button that is set changes. -/
@[simp]
lemma stateButton_setStateButton (button other : CapsuleToggle) (appearance : Appearance) :
    (view.setStateButton button appearance).stateButton other =
      if other = button then appearance else view.stateButton other := by
  cases button <;> cases other <;> rfl

/-- Setting a state button leaves the tag buttons alone. -/
@[simp]
lemma tagButtons_setStateButton (button : CapsuleToggle) (appearance : Appearance) :
    (view.setStateButton button appearance).tagButtons = view.tagButtons := by
  cases button <;> rfl

/-- The two appearances of a tag button differ. -/
lemma tagAppearance_eq_iff {isSelected : Bool} :
    tagAppearance isSelected = tagAppearance true ↔ isSelected = true := by
  cases isSelected <;> decide

/-- A tap on a tag button highlights what it selects. -/
lemma handleTagButtonTap_highlightsTag (h : view.HighlightsTag m)
    (sender : Fin K.String.tags.length) :
    (view.handleTagButtonTap m sender).HighlightsTag (m.handleTagButtonTap sender) := by
  intro tag
  unfold handleTagButtonTap TimeCapsulePreviewModel.handleTagButtonTap
  split
  · rw [TimeCapsulePreviewModel.filter_selectedTag]
    simp only [tagAppearance_eq_iff, beq_iff_eq, Option.some.injEq]
    exact eq_comm
  · next same =>
    have selected : m.selectedTag = some sender := by
      by_contra other
      exact same (.inr other)
    rw [TimeCapsulePreviewModel.filter_selectedTag]
    by_cases e : tag = sender
    · subst e
      simp [updateTagButtonAppearance, tagAppearance_eq_iff]
    · have others := h tag
      rw [selected] at others
      simp [updateTagButtonAppearance, Function.update_of_ne e, others, Ne.symm e]

/-- A tap on a tag button leaves the state buttons alone. -/
lemma handleTagButtonTap_highlightsState (h : view.HighlightsState m)
    (sender : Fin K.String.tags.length) :
    (view.handleTagButtonTap m sender).HighlightsState (m.handleTagButtonTap sender) := by
  have buttons : (view.handleTagButtonTap m sender).stateButton = view.stateButton := by
    unfold handleTagButtonTap
    split <;> rfl
  have selected : (m.handleTagButtonTap sender).selectedState = m.selectedState := by
    unfold TimeCapsulePreviewModel.handleTagButtonTap
    split <;> exact TimeCapsulePreviewModel.filter_selectedState _
  unfold HighlightsState
  rw [buttons, selected]
  exact h

/-- A tap on a state button highlights what it selects, whatever was highlighted before. -/
lemma toggleCapsuleViewButton_highlightsState (sender : CapsuleToggle) :
    (view.toggleCapsuleViewButton m sender).HighlightsState (m.toggleCapsuleViewButton sender) := by
  intro button
  by_cases selects : m.selectedState = none ∨
      m.selectedState.map (·.rawValue) ≠ some sender.rawValue
  · simp only [toggleCapsuleViewButton, TimeCapsulePreviewModel.toggleCapsuleViewButton,
      if_pos selects, TimeCapsulePreviewModel.filter_selectedState]
    cases sender <;> cases button <;> simp [selectedAppearance, CapsuleToggle.rawValue]
  · simp only [toggleCapsuleViewButton, TimeCapsulePreviewModel.toggleCapsuleViewButton,
      if_neg selects, TimeCapsulePreviewModel.filter_selectedState]
    cases sender <;> cases button <;> simp [selectedAppearance, CapsuleToggle.rawValue]

/-- A tap on a state button leaves the tag buttons alone. -/
lemma toggleCapsuleViewButton_highlightsTag (h : view.HighlightsTag m) (sender : CapsuleToggle) :
    (view.toggleCapsuleViewButton m sender).HighlightsTag (m.toggleCapsuleViewButton sender) := by
  have buttons : (view.toggleCapsuleViewButton m sender).tagButtons = view.tagButtons := by
    unfold toggleCapsuleViewButton
    dsimp only
    split <;> simp
  have selected : (m.toggleCapsuleViewButton sender).selectedTag = m.selectedTag := by
    unfold TimeCapsulePreviewModel.toggleCapsuleViewButton
    split <;> exact TimeCapsulePreviewModel.filter_selectedTag _
  unfold HighlightsTag
  rw [buttons, selected]
  exact h

/-- A new view highlights no tag. -/
lemma new_highlightsTag_iff : ({} : HomeView).HighlightsTag m ↔ m.selectedTag = none := by
  have plain (tag : Fin K.String.tags.length) :
      ({} : HomeView).tagButtons tag ≠ tagAppearance true := by
    show (⟨.gray11, .gray9⟩ : Appearance) ≠ tagAppearance true
    decide
  constructor
  · intro h
    cases selected : m.selectedTag with
    | none => rfl
    | some tag => exact absurd ((h tag).2 selected) (plain tag)
  · intro unselected tag
    rw [unselected]
    exact iff_of_false (plain tag) nofun

/-- A new view highlights no state. -/
lemma new_highlightsState_iff : ({} : HomeView).HighlightsState m ↔ m.selectedState = none := by
  have plain (button : CapsuleToggle) :
      ({} : HomeView).stateButton button ≠ selectedAppearance button := by
    cases button <;> decide
  constructor
  · intro h
    cases selected : m.selectedState with
    | none => rfl
    | some button => exact absurd ((h button).2 (by rw [selected]; rfl)) (plain button)
  · intro unselected button
    rw [unselected]
    exact iff_of_false (plain button) nofun

end HomeView

/-! ## Runs -/

namespace HomeWindow

/-- A step keeps the highlights just when it does not build a home screen under a selection. -/
lemma step_highlights_iff (s : HomeWindow) (e : HomeWindowEvent) (h : s.Highlights) :
    Run.After step Highlights s e ↔ s.ConnectsUnselected e := by
  cases e with
  | willConnect keychain =>
    by_cases builds : BuildsHome keychain
    · simp [Run.After, step, builds, Highlights, ConnectsUnselected, HomeView.new_highlightsTag_iff,
        HomeView.new_highlightsState_iff]
    · simp [Run.After, step, builds, Highlights, ConnectsUnselected]
  | handleTagButtonTap sender =>
    refine iff_of_true (fun t ht => ?_) trivial
    cases hv : s.homeView with
    | none =>
      simp only [step, hv] at ht
      cases ht
      exact h
    | some view =>
      obtain ⟨tag, state⟩ := h view hv
      simp only [step, hv] at ht
      cases ht
      intro view hv
      cases hv
      exact ⟨HomeView.handleTagButtonTap_highlightsTag tag sender,
        HomeView.handleTagButtonTap_highlightsState state sender⟩
  | toggleCapsuleViewButton sender =>
    refine iff_of_true (fun t ht => ?_) trivial
    cases hv : s.homeView with
    | none =>
      simp only [step, hv] at ht
      cases ht
      exact h
    | some view =>
      obtain ⟨tag, _⟩ := h view hv
      simp only [step, hv] at ht
      cases ht
      intro view hv
      cases hv
      exact ⟨HomeView.toggleCapsuleViewButton_highlightsTag tag sender,
        HomeView.toggleCapsuleViewButton_highlightsState sender⟩

/-- From launch on, the view on screen highlights the selection in every state just when no
connection builds a home screen while something is selected. -/
theorem highlights_iff (es : List HomeWindowEvent) :
    Run.Always step Highlights {} es ↔ Run.Steps step ConnectsUnselected {} es := by
  have init : Highlights {} := fun view hv => absurd hv (Option.not_mem_none view)
  exact Run.always_iff_steps step_highlights_iff init

/-- The scene connects again after a tag was selected: the new view highlights nothing. -/
theorem highlights_lost : ¬ ∀ es : List HomeWindowEvent, Run.Always step Highlights {} es := by
  intro h
  have run := h [.willConnect ((∅ : Keychain).save "r" .refreshToken), .handleTagButtonTap ⟨1, by decide⟩,
    .willConnect ((∅ : Keychain).save "r" .refreshToken)]
  revert run
  decide

end HomeWindow

end TimeCapsule.Home
