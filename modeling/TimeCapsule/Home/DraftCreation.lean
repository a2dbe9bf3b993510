import TimeCapsule.Home.CapsuleCreation2ViewController

/-!
# How often a draft is created

The done button of the creation screen sends a request whenever the form is valid: nothing remembers
a request that is outstanding, and after an accepted answer the screen stays up until a block on the
main queue pops it. `one_creation_iff` says that a second creation comes of a tap in one of these
two windows only.

The runs here are recorded with a flag: whether an accepted answer has been handled.
-/

namespace TimeCapsule.Home
open Foundation

namespace CapsuleCreation2ViewController

/-- The tap on the done button finds a valid form and a token. -/
def SendsCreation (s : CapsuleCreation2ViewController) : CreationEvent → Prop
  | .doneCreationButtonTap =>
    s.validateRequestData = none ∧ (s.keychain.load .refreshToken).isSome
  | _ => False

/-- An accepted answer to a creation is handled at this step. -/
def acceptsCreation (s : CapsuleCreation2ViewController) : CreationEvent → Bool
  | .creation traffic => (s.creations.step traffic).2.any fun (_, result) => result.accepted.isSome
  | _ => false

/-- A step of the screen, with the flag. -/
def draftStep : CapsuleCreation2ViewController × Bool → CreationEvent →
    Option (CapsuleCreation2ViewController × Bool) :=
  Run.record step fun s e accepted => accepted || s.acceptsCreation e

/-- The button of a screen that has been popped is not tapped. -/
def OnScreen (d : CapsuleCreation2ViewController × Bool) : CreationEvent → Prop
  | .doneCreationButtonTap => d.1.popped = false
  | _ => True

/-- At most one creation is outstanding. -/
def AtMostOne (d : CapsuleCreation2ViewController × Bool) : Prop := d.1.creations.length ≤ 1

/-- After an accepted answer, no creation is sent. -/
def NoneAfter (d : CapsuleCreation2ViewController × Bool) (e : CreationEvent) : Prop :=
  d.2 = true → Run.After step (fun t => t.creations.length ≤ d.1.creations.length) d.1 e

/-- A creation is sent only while none is outstanding and no block is waiting to pop the screen. -/
def InTime (d : CapsuleCreation2ViewController × Bool) (e : CreationEvent) : Prop :=
  d.1.SendsCreation e → d.1.creations = [] ∧ .created ∉ d.1.main

instance (s : CapsuleCreation2ViewController) : DecidablePred s.SendsCreation
  | .doneCreationButtonTap => inferInstanceAs (Decidable (_ ∧ _))
  | .editTitle _ | .editContent _ | .pickDate _ | .showTagDropDown | .didSelectRowAt _
  | .didFinishPickingMediaWithInfo _ _ | .deleteImageButtonTap _ | .cancelCreationButtonTap
  | .upload _ | .deletion _ | .creation _ | .main | .keychain _ => inferInstanceAs (Decidable False)

instance (d : CapsuleCreation2ViewController × Bool) : DecidablePred (OnScreen d)
  | .doneCreationButtonTap => inferInstanceAs (Decidable (_ = false))
  | .editTitle _ | .editContent _ | .pickDate _ | .showTagDropDown | .didSelectRowAt _
  | .didFinishPickingMediaWithInfo _ _ | .deleteImageButtonTap _ | .cancelCreationButtonTap
  | .upload _ | .deletion _ | .creation _ | .main | .keychain _ => inferInstanceAs (Decidable True)

instance : DecidablePred AtMostOne := fun _ => inferInstanceAs (Decidable (_ ≤ _))

instance (d : CapsuleCreation2ViewController × Bool) : DecidablePred (NoneAfter d) := fun _ =>
  inferInstanceAs (Decidable (_ → Run.After _ _ _ _))

instance (d : CapsuleCreation2ViewController × Bool) : DecidablePred (InTime d) := fun _ =>
  inferInstanceAs (Decidable (_ → _ ∧ _))

/-! ## One step -/

/-- What a step does to the creations and to the block that pops the screen. -/
structure Drafts (s : CapsuleCreation2ViewController) (e : CreationEvent)
    (t : CapsuleCreation2ViewController) : Prop where
  sends : s.SendsCreation e → t.creations.length = s.creations.length + 1
  others : ¬ s.SendsCreation e → t.creations.length ≤ s.creations.length
  pending : .created ∈ s.main ∨ s.popped = true → .created ∈ t.main ∨ t.popped = true
  created : .created ∈ t.main → .created ∈ s.main ∨ s.acceptsCreation e = true
  accepted : s.acceptsCreation e = true → .created ∈ t.main

section Step
variable {s t : CapsuleCreation2ViewController} {e : CreationEvent}

/-- A step that has nothing to do with creations. -/
lemma drafts_of_same (sends : ¬ s.SendsCreation e) (accepts : s.acceptsCreation e = false)
    (creations : t.creations = s.creations) (popped : s.popped = true → t.popped = true)
    (main : .created ∈ t.main ↔ .created ∈ s.main) : s.Drafts e t where
  sends h := absurd h sends
  others _ := by rw [creations]
  pending h := h.imp main.2 popped
  created h := .inl (main.1 h)
  accepted h := by simp [accepts] at h

/-- The done button sends a creation if the form is valid and a token is stored. -/
lemma drafts_doneCreationButtonTap : s.Drafts .doneCreationButtonTap s.doneCreationButtonTap := by
  unfold doneCreationButtonTap sendTimeCapsuleRequest
  cases valid : s.validateRequestData with
  | some message =>
    have sends : ¬ s.SendsCreation .doneCreationButtonTap := by simp [SendsCreation, valid]
    exact drafts_of_same sends rfl rfl id Iff.rfl
  | none =>
    cases loaded : s.keychain.load .refreshToken with
    | none =>
      have sends : ¬ s.SendsCreation .doneCreationButtonTap := by simp [SendsCreation, loaded]
      exact drafts_of_same sends rfl rfl id Iff.rfl
    | some token =>
      have sends : s.SendsCreation .doneCreationButtonTap := ⟨valid, by simp [loaded]⟩
      refine ⟨fun _ => ?_, fun h => absurd sends h, id, .inl, fun h => ?_⟩
      · simp [Wire.send]
      · cases h

/-- Running a block: the one of an accepted creation pops the screen. -/
lemma drafts_runMain (h : s.runMain = some t) : s.Drafts .main t := by
  rcases runMain_cases h with
    ⟨hm, rfl⟩ | ⟨image, response, main, id, hm, hr, rfl⟩ | ⟨imageId, main, hm, rfl⟩ | ⟨main, hm, rfl⟩
  · exact drafts_of_same id rfl rfl id Iff.rfl
  · exact drafts_of_same (fun h => h) rfl rfl (fun h => h) (by simp [hm])
  · exact drafts_of_same id rfl rfl id (by simp [hm])
  · exact ⟨fun h => h.elim, fun _ => le_rfl, fun _ => .inr rfl, fun h => .inl (hm ▸ .tail _ h),
      fun h => by cases h⟩

/-- Handling an answer to a creation. -/
lemma drafts_creation {traffic : Traffic (AFResult CapsuleResponse)}
    (h : s.step (.creation traffic) = some t) : s.Drafts (.creation traffic) t := by
  have shorter := (s.creations.step_moves traffic).length_le
  have accepts : s.acceptsCreation (.creation traffic) =
      (s.creations.step traffic).2.any (·.2.accepted.isSome) := rfl
  rw [creation_eq h, ← accepts]
  have main : .created ∈ s.main ++ (if s.acceptsCreation (.creation traffic) then [.created] else []) ↔
      CreationBlock.created ∈ s.main ∨ s.acceptsCreation (.creation traffic) = true := by
    rw [List.mem_append]
    cases s.acceptsCreation (.creation traffic) <;> simp
  exact ⟨fun h => h.elim, fun _ => shorter, fun h => h.imp (fun h => main.2 (.inl h)) id, main.1,
    fun h => main.2 (.inr h)⟩

/-- Inversion of `step`, for the creations. -/
lemma step_drafts (h : s.step e = some t) : s.Drafts e t := by
  cases e with
  | editTitle | editContent | pickDate | didSelectRowAt | keychain =>
    cases h
    exact drafts_of_same id rfl rfl id Iff.rfl
  | cancelCreationButtonTap =>
    cases h
    exact drafts_of_same id rfl rfl (fun _ => rfl) Iff.rfl
  | showTagDropDown =>
    cases h
    obtain ⟨hidden, selected, _, eq⟩ := s.showTagDropDown_eq
    rw [eq]
    exact drafts_of_same id rfl rfl id Iff.rfl
  | didFinishPickingMediaWithInfo editedImage originalImage =>
    cases h
    obtain ⟨uploads, eq⟩ := s.didFinishPickingMediaWithInfo_eq editedImage originalImage
    rw [eq]
    exact drafts_of_same id rfl rfl id Iff.rfl
  | doneCreationButtonTap => cases h; exact drafts_doneCreationButtonTap
  | deleteImageButtonTap =>
    rcases deleteImageButtonTap_cases h with rfl | ⟨_, imageId, deletions, _, _, rfl⟩
    · exact drafts_of_same id rfl rfl id Iff.rfl
    · exact drafts_of_same (fun h => h) rfl rfl (fun h => h) Iff.rfl
  | main => exact drafts_runMain h
  | creation traffic => exact drafts_creation h
  | upload =>
    rcases upload_cases h with rfl | ⟨image, response, rfl⟩
    · exact drafts_of_same (fun h => h) rfl rfl (fun h => h) Iff.rfl
    · exact drafts_of_same (fun h => h) rfl rfl (fun h => h) (by simp)
  | deletion =>
    rcases deletion_cases h with rfl | ⟨imageId, rfl⟩
    · exact drafts_of_same (fun h => h) rfl rfl (fun h => h) Iff.rfl
    · exact drafts_of_same (fun h => h) rfl rfl (fun h => h) (by simp)

end Step

/-! ## Runs -/

/-- A block that pops the screen stems from an accepted answer, and as long as the screen is up the
block of an accepted answer is waiting. -/
def FlagMeans (d : CapsuleCreation2ViewController × Bool) : Prop :=
  (.created ∈ d.1.main → d.2 = true) ∧ (d.2 = true → .created ∈ d.1.main ∨ d.1.popped = true)

/-- Every step keeps the meaning of the flag. -/
lemma step_flagMeans (d : CapsuleCreation2ViewController × Bool) (e : CreationEvent)
    (means : FlagMeans d) : Run.After draftStep FlagMeans d e := by
  intro t ht
  obtain ⟨h, flag⟩ := Run.mem_record.1 ht
  have drafts := step_drafts h
  rw [FlagMeans, flag, Bool.or_eq_true]
  constructor
  · intro created
    exact (drafts.created created).imp means.1 id
  · rintro (set | accepts)
    · exact drafts.pending (means.2 set)
    · exact .inl (drafts.accepted accepts)

/-- A tap that sends a creation puts one more on the wire. -/
lemma sends_step {d : CapsuleCreation2ViewController × Bool} {e : CreationEvent}
    (sends : d.1.SendsCreation e) :
    ∃ t ∈ draftStep d e, t.1.creations.length = d.1.creations.length + 1 := by
  cases e with
  | doneCreationButtonTap =>
    have h : d.1.step .doneCreationButtonTap = some d.1.doneCreationButtonTap := rfl
    exact ⟨(_, _), Run.mem_record.2 ⟨h, rfl⟩, (step_drafts h).sends sends⟩
  | _ => cases sends

/-- A step of a bounded and silent run is in time. -/
lemma inTime_of_bounded (d : CapsuleCreation2ViewController × Bool) (e : CreationEvent)
    (means : FlagMeans d) (bounded : Run.After draftStep AtMostOne d e ∧ NoneAfter d e) :
    InTime d e := by
  intro sends
  obtain ⟨t, ht, more⟩ := sends_step sends
  have atMostOne : t.1.creations.length ≤ 1 := bounded.1 t ht
  refine ⟨List.eq_nil_of_length_eq_zero (by omega), fun created => ?_⟩
  have silent := bounded.2 (means.1 created) t.1 (Run.mem_record.1 ht).1
  omega

/-- A step in time keeps the bound. -/
lemma atMostOne_of_inTime (d : CapsuleCreation2ViewController × Bool) (e : CreationEvent)
    (atMostOne : AtMostOne d) (inTime : InTime d e) : Run.After draftStep AtMostOne d e := by
  intro t ht
  have drafts := step_drafts (Run.mem_record.1 ht).1
  by_cases sends : d.1.SendsCreation e
  · rw [AtMostOne, drafts.sends sends, (inTime sends).1]
    exact le_rfl
  · exact (drafts.others sends).trans atMostOne

/-- A step in time on a screen that is up is silent after an accepted answer. -/
lemma noneAfter_of_inTime (d : CapsuleCreation2ViewController × Bool) (e : CreationEvent)
    (means : FlagMeans d) (inTime : InTime d e) (onScreen : OnScreen d e) : NoneAfter d e := by
  intro set t h
  apply (step_drafts h).others
  intro sends
  cases e with
  | doneCreationButtonTap =>
    rcases means.2 set with waiting | popped
    · exact (inTime sends).2 waiting
    · simp [OnScreen, popped] at onScreen
  | _ => cases sends

/-- On a screen whose button is tapped only while it is up, at most one creation is outstanding and
none is sent after an accepted answer, just when no tap sends one while another is outstanding or
the block that pops the screen is waiting. -/
theorem one_creation_iff (keychain : Keychain) (dateFormatter : String → Rat → String) (date : Rat)
    (es : List CreationEvent)
    (onScreen : Run.Steps draftStep OnScreen (create keychain dateFormatter date, false) es) :
    Run.Always draftStep AtMostOne (create keychain dateFormatter date, false) es ∧
        Run.Steps draftStep NoneAfter (create keychain dateFormatter date, false) es ↔
      Run.Steps draftStep InTime (create keychain dateFormatter date, false) es := by
  have means : FlagMeans (create keychain dateFormatter date, false) := by
    refine ⟨fun created => ?_, fun set => ?_⟩
    · cases created
    · cases set
  have one : AtMostOne (create keychain dateFormatter date, false) := Nat.zero_le 1
  constructor
  · rintro ⟨⟨_, bounded⟩, silent⟩
    exact (bounded.and silent).inv (fun d e means _ => step_flagMeans d e means) inTime_of_bounded
      means
  · intro inTime
    constructor
    · exact Run.always_of_steps atMostOne_of_inTime one inTime
    · refine (inTime.and onScreen).inv (fun d e means _ => step_flagMeans d e means) ?_ means
      exact fun d e means h => noneAfter_of_inTime d e means h.1 h.2

/-- A creation is refused and sent again, and accepted the second time. -/
theorem one_creation_retried :
    Run.Always draftStep AtMostOne
        (create ((∅ : Keychain).save "r" .refreshToken) (fun _ _ => "") 0, false)
        [.editTitle "t", .editContent "c", .didSelectRowAt ⟨0, by decide⟩, .doneCreationButtonTap,
          .creation (.reply 0 (.success ⟨false, "500", "", none⟩)), .creation (.deliver 0),
          .doneCreationButtonTap, .creation (.reply 0 (.success ⟨true, "200", "OK", none⟩)),
          .creation (.deliver 0), .main] ∧
      Run.Steps draftStep NoneAfter
        (create ((∅ : Keychain).save "r" .refreshToken) (fun _ _ => "") 0, false)
        [.editTitle "t", .editContent "c", .didSelectRowAt ⟨0, by decide⟩, .doneCreationButtonTap,
          .creation (.reply 0 (.success ⟨false, "500", "", none⟩)), .creation (.deliver 0),
          .doneCreationButtonTap, .creation (.reply 0 (.success ⟨true, "200", "OK", none⟩)),
          .creation (.deliver 0), .main] :=
  (one_creation_iff _ _ _ _ (by decide)).2 (by decide)

/-- The done button is tapped twice in a row. -/
theorem two_creations :
    ¬ ∀ (keychain : Keychain) (dateFormatter : String → Rat → String) (date : Rat)
      (es : List CreationEvent),
      Run.Steps draftStep OnScreen (create keychain dateFormatter date, false) es →
      Run.Always draftStep AtMostOne (create keychain dateFormatter date, false) es ∧
        Run.Steps draftStep NoneAfter (create keychain dateFormatter date, false) es := by
  intro h
  have run := (h ((∅ : Keychain).save "r" .refreshToken) (fun _ _ => "") 0
    [.editTitle "t", .editContent "c", .didSelectRowAt ⟨0, by decide⟩, .doneCreationButtonTap,
      .doneCreationButtonTap] (by decide)).1
  revert run
  decide

end CapsuleCreation2ViewController

end TimeCapsule.Home
