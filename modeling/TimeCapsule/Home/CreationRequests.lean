import TimeCapsule.Home.CapsuleCreation2ViewController

/-!
# What is asked to be created

The tag of a creation request comes from the title of the tag button, while the check before sending
looks at `isTagSelected`. The drop-down clears the flag and leaves the title, so the two are tied by
the rows that have been selected: `TagKnown` says that the title is the tag of the last one, if
there was one, and that the flag needs one. `requests_wellFormed` follows for every request of every
run.
-/

namespace TimeCapsule.Home
open Foundation

namespace CapsuleCreation2ViewController

/-- The creations on the wire after the traffic of an event, before any handler has run. -/
def creationsMoved (s : CapsuleCreation2ViewController) :
    CreationEvent → Wire CreationRequest (AFResult CapsuleResponse)
  | .creation traffic => (s.creations.step traffic).1
  | _ => s.creations

/-- The creations that are requested at this step. -/
def creationsIssued (s : CapsuleCreation2ViewController) (e : CreationEvent) :
    List CreationRequest :=
  match s.step e with
  | some t => (s.creationsMoved e).sent t.creations
  | none => []

/-- The history notes the row that was selected last. -/
def noteRow (_ : CapsuleCreation2ViewController) (e : CreationEvent)
    (last : Option (Fin K.String.tags.length)) : Option (Fin K.String.tags.length) :=
  match e with
  | .didSelectRowAt row => some row
  | _ => last

/-- A request is well formed: it holds the two fields, which are not empty, and the tag of the row
that was selected last. -/
structure WellFormed (s : CapsuleCreation2ViewController)
    (last : Option (Fin K.String.tags.length)) (request : TimeCapsuleRequest) : Prop where
  title : request.title = s.view.addCapsuleTitleTextField ∧ request.title ≠ ""
  content : request.content = s.view.addTextTextView ∧ request.content ≠ ""
  tagName : request.tagName ∈ K.String.tags ∧
    last.map K.String.tags.get = some request.tagName

/-- Every creation that is requested at this step is well formed. -/
def RequestsWellFormed (s : CapsuleCreation2ViewController × Option (Fin K.String.tags.length))
    (e : CreationEvent) : Prop :=
  ∀ r ∈ s.1.creationsIssued e, s.1.WellFormed s.2 r.requestData

/-- The title of the tag button is the tag of the last row, and the flag needs a row. -/
structure TagKnown (s : CapsuleCreation2ViewController × Option (Fin K.String.tags.length)) :
    Prop where
  title : s.1.view.addTagButton = s.2.map K.String.tags.get
  selected : s.1.view.isTagSelected = true → s.2.isSome

variable {s t : CapsuleCreation2ViewController} {e : CreationEvent}

/-! ## What a step does to the tag and to the creations -/

/-- The tag button keeps its title, the flag is not set, and no creation is sent. -/
structure KeepsTag (s : CapsuleCreation2ViewController) (e : CreationEvent)
    (t : CapsuleCreation2ViewController) : Prop where
  title : t.view.addTagButton = s.view.addTagButton
  selected : t.view.isTagSelected = true → s.view.isTagSelected = true
  creations : t.creations = s.creationsMoved e

/-- A step that has nothing to do with the tag. -/
lemma keepsTag_of_view (view : t.view = s.view) (creations : t.creations = s.creationsMoved e) :
    s.KeepsTag e t :=
  ⟨by rw [view], by rw [view]; exact id, creations⟩

/-- Apart from the selection of a row and the done button, a step keeps the tag and sends
nothing. -/
lemma step_keepsTag (h : s.step e = some t) (row : ∀ row, e ≠ .didSelectRowAt row)
    (done : e ≠ .doneCreationButtonTap) : s.KeepsTag e t := by
  cases e with
  | editTitle | editContent | pickDate =>
    cases h
    exact ⟨rfl, id, rfl⟩
  | cancelCreationButtonTap | keychain =>
    cases h
    exact keepsTag_of_view rfl rfl
  | showTagDropDown =>
    cases h
    obtain ⟨hidden, selected, kept, eq⟩ := s.showTagDropDown_eq
    rw [eq]
    exact ⟨rfl, kept, rfl⟩
  | didSelectRowAt r => exact absurd rfl (row r)
  | doneCreationButtonTap => exact absurd rfl done
  | didFinishPickingMediaWithInfo editedImage originalImage =>
    cases h
    obtain ⟨uploads, eq⟩ := s.didFinishPickingMediaWithInfo_eq editedImage originalImage
    rw [eq]
    exact keepsTag_of_view rfl rfl
  | deleteImageButtonTap sender =>
    rcases deleteImageButtonTap_cases h with rfl | ⟨_, imageId, deletions, _, _, rfl⟩
    · exact keepsTag_of_view rfl rfl
    · exact keepsTag_of_view rfl rfl
  | upload =>
    rcases upload_cases h with rfl | ⟨image, response, rfl⟩
    · exact keepsTag_of_view rfl rfl
    · exact keepsTag_of_view rfl rfl
  | deletion =>
    rcases deletion_cases h with rfl | ⟨imageId, rfl⟩
    · exact keepsTag_of_view rfl rfl
    · exact keepsTag_of_view rfl rfl
  | creation =>
    rw [creation_eq h]
    exact keepsTag_of_view rfl rfl
  | main =>
    rcases runMain_cases h with
      ⟨_, rfl⟩ | ⟨image, response, main, id, _, _, rfl⟩ | ⟨imageId, main, _, rfl⟩ | ⟨main, _, rfl⟩
    all_goals exact keepsTag_of_view rfl rfl

/-! ## The requests -/

/-- A form without an alert has a title, a content and a selected tag. -/
lemma validateRequestData_eq_none (h : s.validateRequestData = none) :
    s.view.addCapsuleTitleTextField ≠ "" ∧ s.view.addTextTextView ≠ "" ∧
      s.view.isTagSelected = true := by
  unfold validateRequestData at h
  split at h
  · cases h
  · next title =>
    split at h
    · cases h
    · next content =>
      split at h
      · cases h
      · next tag =>
        exact ⟨fun e => title (by simp [e]), fun e => content (by simp [e]), by simpa using tag⟩

/-- What is requested at a step is requested by the done button of a valid form. -/
lemma of_mem_creationsIssued {r : CreationRequest} (hr : r ∈ s.creationsIssued e) :
    s.validateRequestData = none ∧ r.requestData = s.requestData := by
  cases h : s.step e with
  | none =>
    simp only [creationsIssued, h] at hr
    cases hr
  | some t =>
    simp only [creationsIssued, h] at hr
    by_cases done : e = .doneCreationButtonTap
    · subst done
      cases h
      unfold doneCreationButtonTap at hr
      split at hr
      · simp [creationsMoved] at hr
      · next valid =>
        unfold sendTimeCapsuleRequest at hr
        split at hr
        · cases List.mem_singleton.1 (Wire.sent_send _ _ ▸ hr)
          exact ⟨valid, rfl⟩
        · simp [creationsMoved] at hr
    · have creations : t.creations = s.creationsMoved e := by
        cases e with
        | didSelectRowAt row =>
          cases h
          rfl
        | _ => exact (step_keepsTag h (fun _ => nofun) done).creations
      rw [creations, Wire.sent_self] at hr
      cases hr

/-- What is requested with a known tag is well formed. -/
lemma requestsWellFormed_of_tagKnown
    (s : CapsuleCreation2ViewController × Option (Fin K.String.tags.length)) (e : CreationEvent)
    (known : TagKnown s) : RequestsWellFormed s e := by
  intro r hr
  obtain ⟨valid, data⟩ := of_mem_creationsIssued hr
  obtain ⟨title, content, selected⟩ := validateRequestData_eq_none valid
  obtain ⟨row, hrow⟩ := Option.isSome_iff_exists.1 (known.selected selected)
  have tag : s.1.requestData.tagName = K.String.tags.get row := by
    show s.1.view.addTagButton.getD "" = K.String.tags.get row
    rw [known.title, hrow]
    rfl
  rw [data]
  refine ⟨⟨rfl, title⟩, ⟨rfl, content⟩, ?_, ?_⟩
  · rw [tag]
    exact List.get_mem _ _
  · rw [tag, hrow]
    rfl

/-- Every recorded step keeps the tag known. -/
lemma record_tagKnown (s : CapsuleCreation2ViewController × Option (Fin K.String.tags.length))
    (e : CreationEvent) (known : TagKnown s) : Run.After (Run.record step noteRow) TagKnown s e := by
  rintro ⟨t, last⟩ ht
  obtain ⟨taken, noted⟩ := Run.mem_record.1 ht
  dsimp only at taken noted
  have kept (title : t.view.addTagButton = s.1.view.addTagButton)
      (selected : t.view.isTagSelected = true → s.1.view.isTagSelected = true) (same : last = s.2) :
      TagKnown (t, last) := by
    subst same
    exact ⟨title.trans known.title, fun h => known.selected (selected h)⟩
  cases e with
  | didSelectRowAt row =>
    cases taken
    cases noted
    exact ⟨rfl, fun _ => rfl⟩
  | doneCreationButtonTap =>
    cases taken
    obtain ⟨alert, creations, eq⟩ := s.1.doneCreationButtonTap_eq
    exact kept (by rw [eq]) (by rw [eq]; exact id) noted
  | _ =>
    have keeps := step_keepsTag taken (fun _ => nofun) nofun
    exact kept keeps.title keeps.selected noted

/-- Whatever is edited, opened, closed and selected, every creation that is requested is well
formed. -/
theorem requests_wellFormed (keychain : Keychain) (dateFormatter : String → Rat → String) (date : Rat)
    (es : List CreationEvent) :
    Run.Steps (Run.record step noteRow) RequestsWellFormed
      (create keychain dateFormatter date, none) es := by
  have init : TagKnown (create keychain dateFormatter date, none) := ⟨rfl, fun h => nomatch h⟩
  exact (Run.always_of_keeps record_tagKnown init es).steps requestsWellFormed_of_tagKnown

end CapsuleCreation2ViewController

end TimeCapsule.Home
