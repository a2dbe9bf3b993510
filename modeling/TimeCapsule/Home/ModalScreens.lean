import TimeCapsule.Home.ListScreen

/-!
# What is presented over the list

The deletion alert, the detail screen and the summary screen are presented over the list: the alert
by the delete button of a cell, with the capsule that the cell keeps; the detail screen by a tap on
an opened capsule, with its id; the summary screen by a button of the detail screen, with the same
id. UIKit refuses to present while something is presented.

`actions` and `requests` are history variables: what the user did with which capsule, and which
contents were asked for. `Justified` connects them with what the server has listed.
-/

namespace TimeCapsule.Home
open Foundation

/-- The view controller that covers the list. -/
inductive Modal where
  | deletionAlert (data : TimeCapsulePreview)
  | capsule (capsuleID : Int)
  | capsuleAI (capsuleID : Int)
deriving DecidableEq, Repr

/-- The two endpoints that tell what is in a capsule. -/
inductive ContentEndpoint where
  | detail
  | ai
deriving DecidableEq, Repr

structure ContentRequest where
  accessToken : String
  timeCapsuleId : Int
  endpoint : ContentEndpoint
deriving DecidableEq, Repr

/-- What the user did, with the capsule it was done to. -/
inductive UserAction where
  | deletePressed (data : TimeCapsulePreview)
  | confirmPressed (data : TimeCapsulePreview)
  | didSelect (data : TimeCapsulePreview)
deriving DecidableEq, Repr

structure ModalScreens where
  list : ListScreen
  modal : Option Modal := none
  actions : List UserAction := []
  requests : List ContentRequest := []

inductive ModalEvent where
  | list (e : ListScreenEvent)
  | didSelectItemAt (keychain : Keychain) (row : Nat)
  | deletePressed (row : Nat)
  | confirmPressed (keychain : Keychain)
  | cancelPressed
  | AISummaryButtonTap (keychain : Keychain)
  | exitButtonTap

/-- The events of the list that are not passed on by a button below. -/
def ListScreenEvent.direct : ListScreenEvent → Bool
  | .home _ (.confirmPressed _) => false
  | .didSelectItemAt _ => false
  | _ => true

namespace ModalScreens

/-- `viewDidLoad` of the detail and of the summary screen: the service loads the token. -/
def fetchContent (s : ModalScreens) (keychain : Keychain) (capsuleID : Int)
    (endpoint : ContentEndpoint) : ModalScreens :=
  match keychain.load .refreshToken with
  | some accessToken => { s with requests := s.requests ++ [⟨accessToken, capsuleID, endpoint⟩] }
  | none => s

/-- `collectionView(_:didSelectItemAt:)` with the presentation of the detail screen. -/
def didSelectItemAt (s : ModalScreens) (keychain : Keychain) (row : Nat) : Option ModalScreens :=
  match s.list.home.store.model.filtered[row]? with
  | some capsulePreview =>
    if capsulePreview.isOpened && s.modal.isNone then
      some (fetchContent
        { s with
          modal := some (.capsule capsulePreview.id)
          actions := s.actions ++ [.didSelect capsulePreview] }
        keychain capsulePreview.id .detail)
    else
      some s
  | none => none

/-- `deletePressed` of a cell: the alert gets the capsule of the cell, whatever `filtered` is by
now. -/
def deletePressed (s : ModalScreens) (row : Nat) : ModalScreens :=
  match s.list.cells row with
  | some cell =>
    if s.modal.isNone then
      { s with
        modal := some (.deletionAlert cell.timeCapsulePreview)
        actions := s.actions ++ [.deletePressed cell.timeCapsulePreview] }
    else
      s
  | none => s

def step (days : Date → Date → Option Int) (s : ModalScreens) : ModalEvent → Option ModalScreens
  | .list e =>
    if e.direct then do
      let list ← s.list.step days e
      some { s with list }
    else
      some s
  | .didSelectItemAt keychain row =>
    if row < s.list.count then s.didSelectItemAt keychain row else some s
  | .deletePressed row => some (s.deletePressed row)
  | .confirmPressed keychain =>
    match s.modal with
    | some (.deletionAlert data) =>
      match keychain.load .refreshToken with
      | some _ => do
        let list ← s.list.step days (.home keychain (.confirmPressed data))
        some { s with list, modal := none, actions := s.actions ++ [.confirmPressed data] }
      -- without a token the handler returns before it dismisses the alert
      | none => some s
    | _ => some s
  | .cancelPressed =>
    match s.modal with
    | some (.deletionAlert _) => some { s with modal := none }
    | _ => some s
  | .AISummaryButtonTap keychain =>
    match s.modal with
    | some (.capsule capsuleID) =>
      some (fetchContent { s with modal := some (.capsuleAI capsuleID) } keychain capsuleID .ai)
    | _ => some s
  | .exitButtonTap =>
    match s.modal with
    | some (.capsule _) => some { s with modal := none }
    | some (.capsuleAI capsuleID) => some { s with modal := some (.capsule capsuleID) }
    | _ => some s

/-- A list that is going to load for the first time, with nothing over it. -/
def launch (p : Process) : ModalScreens := { list := .appear { store := .launch p } }

/-! ## Where everything comes from -/

/-- The server has listed the capsule. -/
def Listed (s : ListScreen) (c : TimeCapsulePreview) : Prop :=
  ∃ d ∈ s.home.returned, c ∈ d.2

/-- The server has listed the capsule as opened, and the user has selected it. -/
def Opened (s : ModalScreens) (capsuleID : Int) : Prop :=
  ∃ c, Listed s.list c ∧ c.isOpened = true ∧ c.id = capsuleID ∧ .didSelect c ∈ s.actions

/-- The user has pressed the delete button of the capsule's cell, and later confirmed an alert for
it. -/
def Confirmed (s : ModalScreens) (data : TimeCapsulePreview) : Prop :=
  List.Sublist [UserAction.deletePressed data, .confirmPressed data] s.actions

/-- Everything that the screens show or ask for has been listed by the server, and every deletion
and every request for a content goes back to what the user did. -/
structure Justified (s : ModalScreens) : Prop where
  holds : ∀ c, s.list.home.store.Holds c → Listed s.list c
  cells : ∀ row, ∀ cell ∈ s.list.cells row, Listed s.list cell.timeCapsulePreview
  alert : ∀ data, s.modal = some (.deletionAlert data) →
    Listed s.list data ∧ .deletePressed data ∈ s.actions
  capsule : ∀ capsuleID, s.modal = some (.capsule capsuleID) ∨ s.modal = some (.capsuleAI capsuleID) →
    s.Opened capsuleID
  deletions : ∀ x ∈ s.list.home.deletions, Listed s.list x.request.data ∧ s.Confirmed x.request.data
  requests : ∀ r ∈ s.requests, s.Opened r.timeCapsuleId

end ModalScreens

/-! ## What a step of the list may do -/

/-- `t` follows `s` without a deletion being sent. -/
structure ListScreen.Follows (s t : ListScreen) : Prop where
  returned : ∀ d ∈ s.home.returned, d ∈ t.home.returned
  holds : ∀ c, t.home.store.Holds c → s.home.store.Holds c ∨ ModalScreens.Listed t c
  cells : ∀ row, ∀ cell ∈ t.cells row,
    (∃ row, cell ∈ s.cells row) ∨ s.home.store.Holds cell.timeCapsulePreview
  deletions : ∀ x ∈ t.home.deletions, ∃ y ∈ s.home.deletions, y.request = x.request

namespace HomeScreen
variable {keychain : Keychain} {s t : HomeScreen} {e : HomeEvent}

/-- Only a confirmed alert sends a deletion. -/
lemma deletions_of_unconfirmed (h : s.step keychain e = some t) (other : ∀ data, e ≠ .confirmPressed data)
    {x : Exchange DeleteRequest (AFResult DeleteResponse)} (hx : x ∈ t.deletions) :
    ∃ y ∈ s.deletions, y.request = x.request := by
  cases step_inv h with
  | sends sends => exact ⟨x, sends.deletions ▸ hx, rfl⟩
  | deletes => exact absurd rfl (other _)
  | tap => exact ⟨x, hx, rfl⟩
  | fetchMoves => exact ⟨x, hx, rfl⟩
  | fetchHandled => exact ⟨x, by rwa [fetchHandler_wires.2] at hx, rfl⟩
  | pageMoves => exact ⟨x, hx, rfl⟩
  | pageHandled => exact ⟨x, by rwa [(pageHandler_wires _ _ _).2.2] at hx, rfl⟩
  | deletionMoves hw => exact (Wire.moves_of_step hw).request hx
  | deletionHandled hw =>
    rw [deletionHandler_deletions] at hx
    exact (Wire.moves_of_step hw).request hx

end HomeScreen

namespace ListScreen
variable {days : Date → Date → Option Int} {s t : ListScreen} {keychain : Keychain} {e : HomeEvent}

/-- What the store holds after a step of the home screen it held before, or the server has listed
it. -/
lemma holds_of_step {home : HomeScreen} (h : s.home.step keychain e = some home)
    {c : TimeCapsulePreview} (hc : home.store.Holds c) :
    s.home.store.Holds c ∨ ∃ d ∈ home.returned, c ∈ d.2 := by
  rcases HomeScreen.step_holds h hc with held | ⟨d, hd, hc⟩
  · exact .inl held
  · refine .inr ⟨d, ?_, hc⟩
    rw [HomeScreen.step_returned h]
    exact List.mem_append_right _ (Option.mem_toList.2 hd)

/-- What the server has listed stays listed. -/
lemma returned_of_step {home : HomeScreen} (h : s.home.step keychain e = some home)
    {d : String × List TimeCapsulePreview} (hd : d ∈ s.home.returned) : d ∈ home.returned := by
  rw [HomeScreen.step_returned h]
  exact List.mem_append_left _ hd

/-- The list follows itself. -/
lemma Follows.refl (s : ListScreen) : s.Follows s where
  returned _ hd := hd
  holds _ hc := .inl hc
  cells row _ hc := .inl ⟨row, hc⟩
  deletions x hx := ⟨x, hx, rfl⟩

/-- A cell is configured with a displayed capsule. -/
lemma follows_cellForItemAt {row : Nat} (h : s.cellForItemAt days row = some t) :
    s.Follows t := by
  unfold cellForItemAt at h
  split at h
  · next data found =>
    obtain ⟨⟨cell, process⟩, hc, h⟩ := Option.bind_eq_some_iff.1 h
    cases h
    refine ⟨fun _ hd => hd, fun _ hc => .inl hc, ?_, fun x hx => ⟨x, hx, rfl⟩⟩
    intro i c (hi : Function.update s.cells row (some cell) i = some c)
    by_cases same : i = row
    · subst same
      rw [Function.update_self] at hi
      cases hi
      rw [TimeCapsulePreviewCollectionViewCell.configuration_data hc]
      exact .inr (.inr (List.mem_of_getElem? found))
    · rw [Function.update_of_ne same] at hi
      exact .inl ⟨i, hi⟩
  · cases h

/-- An event of the list that is no button's sends no deletion. -/
lemma step_follows {e : ListScreenEvent} (direct : e.direct = true)
    (h : s.step days e = some t) : s.Follows t := by
  cases e with
  | home keychain e =>
    obtain ⟨home, hs, h⟩ := Option.bind_eq_some_iff.1 h
    cases h
    have other : ∀ data, e ≠ .confirmPressed data := by
      rintro data rfl
      cases direct
    exact ⟨fun _ hd => returned_of_step hs hd, fun _ hc => holds_of_step hs hc,
      fun row _ hc => .inl ⟨row, hc⟩, fun _ hx => HomeScreen.deletions_of_unconfirmed hs other hx⟩
  | reloadData =>
    cases h
    unfold reloadData
    split
    · exact { Follows.refl s with cells := fun _ _ hc => absurd hc (Option.not_mem_none _) }
    · exact .refl s
  | cellForItemAt row =>
    simp only [step] at h
    split at h
    · exact follows_cellForItemAt h
    · cases h
      exact .refl s
  | didSelectItemAt row => cases direct

end ListScreen

namespace ModalScreens

/-- `t` has everything of `s` that a justification goes back to. -/
structure Extends (s t : ModalScreens) : Prop where
  listed : ∀ c, Listed s.list c → Listed t.list c
  actions : s.actions <+: t.actions

section Step
variable {days : Date → Date → Option Int} {s t : ModalScreens} {keychain : Keychain}

/-- An opened capsule stays one. -/
lemma Opened.mono {capsuleID : Int} (opened : s.Opened capsuleID) (ext : Extends s t) :
    t.Opened capsuleID := by
  obtain ⟨c, listed, isOpened, rfl, selected⟩ := opened
  exact ⟨c, ext.listed c listed, isOpened, rfl, ext.actions.subset selected⟩

/-- A confirmed deletion stays one. -/
lemma Confirmed.mono {data : TimeCapsulePreview} (confirmed : s.Confirmed data)
    (ext : Extends s t) : t.Confirmed data :=
  confirmed.trans ext.actions.sublist

/-- What the server has listed stays listed when the list goes on. -/
lemma extends_of_follows {list : ListScreen} (follows : s.list.Follows list) :
    Extends s { s with list } where
  listed _ := fun ⟨d, hd, hc⟩ => ⟨d, follows.returned d hd, hc⟩
  actions := List.prefix_rfl

/-- The list goes on below what is presented. -/
lemma Justified.follows (just : s.Justified) {list : ListScreen} (follows : s.list.Follows list) :
    Justified { s with list } := by
  have ext := extends_of_follows follows
  refine ⟨?_, ?_, ?_, ?_, ?_, ?_⟩
  · intro c hc
    exact (follows.holds c hc).elim (fun held => ext.listed c (just.holds c held)) id
  · intro row cell hc
    rcases follows.cells row cell hc with ⟨row, old⟩ | held
    · exact ext.listed _ (just.cells row cell old)
    · exact ext.listed _ (just.holds _ held)
  · intro data shown
    exact ⟨ext.listed _ (just.alert data shown).1, (just.alert data shown).2⟩
  · intro capsuleID shown
    exact (just.capsule capsuleID shown).mono ext
  · intro x hx
    obtain ⟨y, hy, e⟩ := follows.deletions x hx
    obtain ⟨listed, confirmed⟩ := just.deletions y hy
    rw [← e]
    exact ⟨ext.listed _ listed, confirmed.mono ext⟩
  · intro r hr
    exact (just.requests r hr).mono ext

/-- Something else is presented, and the user has done more. -/
lemma Justified.presents (just : s.Justified) {modal : Option Modal} {actions : List UserAction}
    (more : s.actions <+: actions)
    (alert : ∀ data, modal = some (.deletionAlert data) →
      Listed s.list data ∧ .deletePressed data ∈ actions)
    (capsule : ∀ capsuleID, modal = some (.capsule capsuleID) ∨ modal = some (.capsuleAI capsuleID) →
      Opened { s with modal, actions } capsuleID) :
    Justified { s with modal, actions } := by
  have ext : Extends s { s with modal, actions } := ⟨fun _ listed => listed, more⟩
  exact ⟨just.holds, just.cells, alert, capsule,
    fun x hx => ⟨(just.deletions x hx).1, (just.deletions x hx).2.mono ext⟩,
    fun r hr => (just.requests r hr).mono ext⟩

/-- The content of an opened capsule may be asked for. -/
lemma Justified.fetchContent (just : s.Justified) {capsuleID : Int} (opened : s.Opened capsuleID)
    (endpoint : ContentEndpoint) : (s.fetchContent keychain capsuleID endpoint).Justified := by
  unfold ModalScreens.fetchContent
  split
  · refine { just with requests := fun r hr => ?_ }
    rcases List.mem_append.1 hr with old | new
    · exact just.requests r old
    · cases List.mem_singleton.1 new
      exact opened
  · exact just

/-- A tap asks for the content of a displayed capsule only if it is listed as opened. -/
lemma Justified.didSelectItemAt (just : s.Justified) {row : Nat}
    (h : s.didSelectItemAt keychain row = some t) : t.Justified := by
  unfold ModalScreens.didSelectItemAt at h
  split at h
  · next c found =>
    split at h
    · next shown =>
      cases h
      obtain ⟨isOpened, _⟩ := Bool.and_eq_true_iff.1 shown
      have listed := just.holds c (.inr (List.mem_of_getElem? found))
      have opened : Opened { s with
          modal := some (.capsule c.id), actions := s.actions ++ [.didSelect c] } c.id :=
        ⟨c, listed, isOpened, rfl, by simp⟩
      apply Justified.fetchContent _ opened
      apply just.presents (List.prefix_append _ _)
      · intro data shown
        cases shown
      · rintro capsuleID (shown | shown) <;> cases shown
        exact opened
    · cases h
      exact just
  · cases h

/-- The delete button presents an alert for the capsule that its cell keeps. -/
lemma Justified.deletePressed (just : s.Justified) (row : Nat) :
    (s.deletePressed row).Justified := by
  unfold ModalScreens.deletePressed
  split
  · next cell found =>
    split
    · apply just.presents (List.prefix_append _ _)
      · intro data shown
        cases shown
        exact ⟨just.cells row cell found, by simp⟩
      · rintro capsuleID (shown | shown) <;> cases shown
    · exact just
  · exact just

/-- Confirming changes nothing but the wire of the deletions. -/
lemma confirmPressed_frame (home : HomeScreen) (keychain : Keychain) (data : TimeCapsulePreview) :
    (home.confirmPressed keychain data).store = home.store ∧
      (home.confirmPressed keychain data).returned = home.returned ∧
      ∀ x ∈ (home.confirmPressed keychain data).deletions,
        x ∈ home.deletions ∨ x.request.data = data := by
  unfold HomeScreen.confirmPressed
  split
  · refine ⟨rfl, rfl, fun x hx => ?_⟩
    rcases Wire.mem_send.1 hx with old | rfl
    · exact .inl old
    · exact .inr rfl
  · exact ⟨rfl, rfl, fun x hx => .inl hx⟩

/-- A confirmed alert sends the deletion of its capsule. -/
lemma Justified.confirmPressed (just : s.Justified) {data : TimeCapsulePreview}
    (shown : s.modal = some (.deletionAlert data)) {list : ListScreen}
    (h : s.list.step days (.home keychain (.confirmPressed data)) = some list) :
    Justified { s with list, modal := none, actions := s.actions ++ [.confirmPressed data] } := by
  obtain ⟨listed, pressed⟩ := just.alert data shown
  have confirmed : List.Sublist [UserAction.deletePressed data, .confirmPressed data]
      (s.actions ++ [.confirmPressed data]) :=
    (List.singleton_sublist.2 pressed).append (List.Sublist.refl [UserAction.confirmPressed data])
  obtain ⟨store, returned, sent⟩ := confirmPressed_frame s.list.home keychain data
  cases h
  have ext : Extends s
      { s with
        list := { s.list with
          home := s.list.home.confirmPressed keychain data
          reloads := s.list.reloads + s.list.home.reloads (.confirmPressed data) }
        modal := none, actions := s.actions ++ [.confirmPressed data] } := by
    refine ⟨fun c => ?_, List.prefix_append _ _⟩
    rintro ⟨d, hd, hc⟩
    exact ⟨d, returned.symm ▸ hd, hc⟩
  refine ⟨?_, ?_, ?_, ?_, ?_, ?_⟩
  · intro c (hc : Store.Holds (s.list.home.confirmPressed keychain data).store c)
    rw [store] at hc
    exact ext.listed c (just.holds c hc)
  · intro row cell hc
    exact ext.listed _ (just.cells row cell hc)
  · intro data shown
    cases shown
  · rintro capsuleID (shown | shown) <;> cases shown
  · intro x hx
    rcases sent x hx with old | rfl
    · exact ⟨ext.listed _ (just.deletions x old).1, (just.deletions x old).2.mono ext⟩
    · exact ⟨ext.listed _ listed, confirmed⟩
  · intro r hr
    exact (just.requests r hr).mono ext

/-- Every step keeps the screens justified. -/
lemma step_justified (s : ModalScreens) (e : ModalEvent) (just : s.Justified) :
    Run.After (step days) Justified s e := by
  intro t ht
  cases e with
  | list e =>
    simp only [step] at ht
    split at ht
    · next direct =>
      obtain ⟨list, hl, ht⟩ := Option.bind_eq_some_iff.1 ht
      cases ht
      exact just.follows (ListScreen.step_follows direct hl)
    · cases ht
      exact just
  | didSelectItemAt keychain row =>
    simp only [step] at ht
    split at ht
    · exact just.didSelectItemAt ht
    · cases ht
      exact just
  | deletePressed row =>
    cases ht
    exact just.deletePressed row
  | confirmPressed keychain =>
    simp only [step] at ht
    split at ht
    · next data shown =>
      split at ht
      · obtain ⟨list, hl, ht⟩ := Option.bind_eq_some_iff.1 ht
        cases ht
        exact just.confirmPressed shown hl
      · cases ht
        exact just
    · cases ht
      exact just
  | cancelPressed =>
    simp only [step] at ht
    split at ht
    · cases ht
      apply just.presents List.prefix_rfl
      · intro data shown
        cases shown
      · rintro capsuleID (shown | shown) <;> cases shown
    · cases ht
      exact just
  | AISummaryButtonTap keychain =>
    simp only [step] at ht
    split at ht
    · next capsuleID shown =>
      cases ht
      have opened : Opened { s with modal := some (.capsuleAI capsuleID) } capsuleID :=
        just.capsule capsuleID (.inl shown)
      apply Justified.fetchContent _ opened
      apply just.presents List.prefix_rfl
      · intro data shown
        cases shown
      · rintro capsuleID (shown | shown) <;> cases shown
        exact opened
    · cases ht
      exact just
  | exitButtonTap =>
    simp only [step] at ht
    split at ht
    · cases ht
      apply just.presents List.prefix_rfl
      · intro data shown
        cases shown
      · rintro capsuleID (shown | shown) <;> cases shown
    · next capsuleID shown =>
      cases ht
      apply just.presents List.prefix_rfl
      · intro data shown
        cases shown
      · rintro id (below | below) <;> cases below
        exact just.capsule capsuleID (.inr shown)
    · cases ht
      exact just

/-- A list that has not loaded yet shows nothing that would need a justification. -/
lemma launch_justified (p : Process) : (launch p).Justified := by
  refine ⟨?_, ?_, ?_, ?_, ?_, ?_⟩
  · rintro c (hc | hc) <;> cases hc
  · intro row cell hc
    cases hc
  · intro data shown
    cases shown
  · rintro capsuleID (shown | shown) <;> cases shown
  · intro x hx
    cases hx
  · intro r hr
    cases hr

end Step

/-- Every deletion that is ever outstanding is that of a capsule which the server has listed, whose
cell's delete button the user has pressed, and for which the user has then confirmed the alert. -/
theorem deletions_confirmed (days : Date → Date → Option Int) (p : Process) (es : List ModalEvent) :
    Run.Always (step days) (fun s => ∀ x ∈ s.list.home.deletions,
      Listed s.list x.request.data ∧ s.Confirmed x.request.data) (launch p) es :=
  (Run.always_of_keeps step_justified (launch_justified p) es).mono fun _ just => just.deletions

/-- The content of a capsule is asked for only if the server has listed the capsule as opened and
the user has selected it. -/
theorem contents_opened (days : Date → Date → Option Int) (p : Process) (es : List ModalEvent) :
    Run.Always (step days) (fun s => ∀ r ∈ s.requests, s.Opened r.timeCapsuleId) (launch p) es :=
  (Run.always_of_keeps step_justified (launch_justified p) es).mono fun _ just => just.requests

end ModalScreens
end TimeCapsule.Home
