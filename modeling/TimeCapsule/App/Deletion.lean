import TimeCapsule.App.App

/-!
# Deleting a capsule

A confirmed deletion does not touch the store. The answer to the DELETE triggers a first refresh,
which assigns `original`; its handler triggers a second one, whose merge filters anew. Every other
answer only adds capsules.

The capsule is therefore gone in the end if the first refresh is still to come (`Purging`), or if
`original` is rid of it already and so is the list on screen, or will be by the second refresh
(`Refiltering`). `deleted_stays_away` proves this invariant for the runs in which both refreshes get
through and no older list is handled after them.
-/

namespace TimeCapsule
open Foundation Home Login

namespace Home

/-- A list names a capsule id. -/
def Lists (id : Int) (l : List TimeCapsulePreview) : Prop := ∃ c ∈ l, c.id = id

instance (id : Int) : DecidablePred (Lists id) := fun l =>
  inferInstanceAs (Decidable (∃ c ∈ l, c.id = id))

/-- The id whose deletion asked for this list as its first refresh. -/
def FetchCompletion.firstRefresh : FetchCompletion → Option Int
  | .confirmPressed data => some data.id
  | _ => none

/-- The id whose deletion asked for this list as its second refresh. -/
def FetchCompletion.secondRefresh : FetchCompletion → Option Int
  | .didConfirmDeletion data => some data.id
  | _ => none

/-- A list without the id may still come of this request. -/
def Clean (id : Int) (x : Exchange FetchRequest (DataResponse TimeCapsulePreviewResponse)) : Prop :=
  ∀ response ∈ x.answer, ∃ json ∈ response.json, ¬ Lists id json.result

instance (id : Int) : DecidablePred (Clean id) := fun x =>
  inferInstanceAs (Decidable (∀ response ∈ x.answer, ∃ json ∈ response.json, ¬ Lists id json.result))

namespace Store

/-- A store whose `original` lacks an id keeps lacking it while no event brings it, and does not put
it back on screen. -/
lemma exec_unlisted {s t : Store} {es : List StoreEvent} (h : Run.exec step s es = some t) {id : Int}
    (original : ¬ Lists id s.model.original) (clean : ∀ e ∈ es, ¬ Lists id e.capsules) :
    ¬ Lists id t.model.original ∧ (Lists id t.model.filtered → Lists id s.model.filtered) := by
  refine Run.exec_inv (I := fun u => ¬ Lists id u.model.original ∧
    (Lists id u.model.filtered → Lists id s.model.filtered)) ?_ ⟨original, fun h => h⟩ h
  rintro u e he ⟨original, filtered⟩ v hv
  have original' : ¬ Lists id v.model.original := by
    rintro ⟨c, hc, hid⟩
    exact (step_original hv hc).elim (fun hc => original ⟨c, hc, hid⟩) fun hc =>
      clean e he ⟨c, hc, hid⟩
  refine ⟨original', ?_⟩
  rintro ⟨c, hc, hid⟩
  exact (step_filtered hv hc).elim (fun hc => absurd ⟨c, hc, hid⟩ original') fun hc =>
    filtered ⟨c, hc, hid⟩

end Store

namespace HomeScreen

/-- A first refresh for the id is going to assign a list without it: its DELETE has been accepted,
or the refresh is under way. -/
def Purging (id : Int) (s : HomeScreen) : Prop :=
  (∃ x ∈ s.deletions, x.request.data.id = id ∧ ∃ result ∈ x.answer, result.value.isSome) ∨
    ∃ x ∈ s.fetches, x.request.completion.firstRefresh = some id ∧ Clean id x

instance (id : Int) : DecidablePred (Purging id) := fun s =>
  inferInstanceAs (Decidable
    ((∃ x ∈ s.deletions, x.request.data.id = id ∧ ∃ result ∈ x.answer, result.value.isSome) ∨
      ∃ x ∈ s.fetches, x.request.completion.firstRefresh = some id ∧ Clean id x))

/-- A second refresh for the id is under way. -/
def Refiltering (id : Int) (s : HomeScreen) : Prop :=
  ∃ x ∈ s.fetches, x.request.completion.secondRefresh = some id ∧ Clean id x

/-- The id is gone, or the pending refreshes will see to it. -/
def Vanishing (id : Int) (s : HomeScreen) : Prop :=
  s.Purging id ∨ ¬ Lists id s.store.model.original ∧
    (Lists id s.store.model.filtered → s.Refiltering id)

/-- Neither array holds the id. -/
def Gone (id : Int) (s : HomeScreen) : Prop :=
  ¬ Lists id s.store.model.original ∧ ¬ Lists id s.store.model.filtered

instance (id : Int) : DecidablePred (Gone id) := fun _ => inferInstanceAs (Decidable (_ ∧ _))

/-- The server lists the id no more. -/
def Unlisted (id : Int) : HomeEvent → Prop
  | .fetch (.reply _ response) => ∀ json ∈ response.json, ¬ Lists id json.result
  | .page (.reply _ response) => ∀ json ∈ response.json, ¬ Lists id json.result.capsuleList
  | _ => True

/-- A first refresh is answered by a list, and so is a second one while the id is on screen. -/
def RefreshAnswered (id : Int) (s : HomeScreen) : HomeEvent → Prop
  | .fetch (.reply i response) => ∀ x ∈ s.fetches[i]?, x.answer = none →
    x.request.completion.firstRefresh = some id ∨
      x.request.completion.secondRefresh = some id ∧ Lists id s.store.model.filtered →
    response.json.isSome
  | _ => True

/-- A first refresh is handled within a session, if the id is on screen. -/
def RefreshContinued (id : Int) (keychain : Keychain) (s : HomeScreen) : HomeEvent → Prop
  | .fetch traffic => ∀ d ∈ (s.fetches.step traffic).2, d.1.completion.firstRefresh = some id →
    Lists id s.store.model.filtered → (keychain.load .refreshToken).isSome
  | _ => True

/-- A list with the id is handled only while a first refresh is still to come. -/
def HandledInTime (id : Int) (s : HomeScreen) (e : HomeEvent) : Prop :=
  ∀ d ∈ s.delivered e, Lists id d.2 → s.Purging id

/-- The conditions on a step after the DELETE of an id was accepted. -/
def Purges (id : Int) (keychain : Keychain) (s : HomeScreen) (e : HomeEvent) : Prop :=
  s.RefreshAnswered id e ∧ s.RefreshContinued id keychain e ∧ s.HandledInTime id e

section Decidable
variable (id : Int) (keychain : Keychain) (s : HomeScreen)

instance : DecidablePred (Unlisted id)
  | .fetch (.reply _ response) =>
    inferInstanceAs (Decidable (∀ json ∈ response.json, ¬ Lists id json.result))
  | .page (.reply _ response) =>
    inferInstanceAs (Decidable (∀ json ∈ response.json, ¬ Lists id json.result.capsuleList))
  | .fetch (.deliver _) | .page (.deliver _) | .deletion _ | .viewWillAppear
  | .scrollViewDidScroll .. | .handleTagButtonTap _ | .toggleCapsuleViewButton _ | .sort _
  | .confirmPressed _ => inferInstanceAs (Decidable True)

instance : DecidablePred (s.RefreshAnswered id)
  | .fetch (.reply i _) =>
    inferInstanceAs (Decidable (∀ x ∈ s.fetches[i]?, _ → _ ∨ _ ∧ _ → _))
  | .fetch (.deliver _) | .page _ | .deletion _ | .viewWillAppear | .scrollViewDidScroll ..
  | .handleTagButtonTap _ | .toggleCapsuleViewButton _ | .sort _ | .confirmPressed _ =>
    inferInstanceAs (Decidable True)

instance : DecidablePred (s.RefreshContinued id keychain)
  | .fetch traffic =>
    inferInstanceAs (Decidable (∀ d ∈ (s.fetches.step traffic).2, _ → _ → _))
  | .page _ | .deletion _ | .viewWillAppear | .scrollViewDidScroll ..
  | .handleTagButtonTap _ | .toggleCapsuleViewButton _ | .sort _ | .confirmPressed _ =>
    inferInstanceAs (Decidable True)

instance : DecidablePred (s.HandledInTime id) := fun e =>
  inferInstanceAs (Decidable (∀ d ∈ s.delivered e, _ → _))

instance : DecidablePred (s.Purges id keychain) := fun _ =>
  inferInstanceAs (Decidable (_ ∧ _ ∧ _))

end Decidable

/-! ## One step -/

section Step
variable {keychain : Keychain} {s t : HomeScreen} {e : HomeEvent} {id : Int}

/-- Sending more requests changes nothing about a capsule that vanishes. -/
lemma Vanishing.mono (vanishing : s.Vanishing id) (store : t.store = s.store)
    (deletions : ∀ x ∈ s.deletions, x ∈ t.deletions) (fetches : ∀ x ∈ s.fetches, x ∈ t.fetches) :
    t.Vanishing id := by
  rw [Vanishing, store]
  rcases vanishing with (⟨x, hx, h⟩ | ⟨x, hx, h⟩) | ⟨original, filtered⟩
  · exact .inl (.inl ⟨x, deletions x hx, h⟩)
  · exact .inl (.inr ⟨x, fetches x hx, h⟩)
  · refine .inr ⟨original, fun shown => ?_⟩
    obtain ⟨x, hx, h⟩ := filtered shown
    exact ⟨x, fetches x hx, h⟩

/-- While no list with the id is handed over, `original` does not get it, and the screen not
back. -/
lemma step_unlisted (h : s.step keychain e = some t) (original : ¬ Lists id s.store.model.original)
    (clean : ∀ d ∈ s.delivered e, ¬ Lists id d.2) :
    ¬ Lists id t.store.model.original ∧
      (Lists id t.store.model.filtered → Lists id s.store.model.filtered) := by
  apply Store.exec_unlisted (step_store h) original
  rintro event he ⟨c, hc, hid⟩
  obtain ⟨d, hd, hc⟩ := mem_storeEvents he hc
  exact clean d hd ⟨c, hc, hid⟩

/-- A decoded answer of the server, which lists the id no more, is clean. -/
lemma clean_reply {i : Nat} {response : DataResponse TimeCapsulePreviewResponse}
    {r : FetchRequest} (unlisted : Unlisted id (.fetch (.reply i response)))
    (answered : response.json.isSome) : Clean id ⟨r, some response⟩ := by
  obtain ⟨json, hj⟩ := Option.isSome_iff_exists.1 answered
  intro response hr
  cases hr
  exact ⟨json, hj, unlisted json hj⟩

/-- The first refresh clears `original` and, if need be, sends the second one. -/
lemma firstRefresh_vanishing {r : FetchRequest} {json : TimeCapsulePreviewResponse}
    (first : r.completion.firstRefresh = some id) (clean : ¬ Lists id json.result)
    (continued : Lists id s.store.model.filtered → (keychain.load .refreshToken).isSome) :
    (s.fetchHandler keychain r (.decoded json)).Vanishing id := by
  obtain ⟨token, completion⟩ := r
  cases completion with
  | confirmPressed data =>
    simp only [fetchHandler, fetchTimeCapsulesResult, didConfirmDeletion]
    split
    · next token hk =>
      refine .inr ⟨clean, fun _ => ?_⟩
      exact ⟨⟨⟨token, .didConfirmDeletion data⟩, none⟩, Wire.mem_send.2 (.inr rfl), first,
        Wire.unanswered⟩
    · next hk =>
      -- no token is stored, so no second refresh is sent
      refine .inr ⟨clean, fun shown => ?_⟩
      have token := continued shown
      simp [hk] at token
  | _ => cases first

/-- The second refresh puts nothing on screen that `original` does not hold. -/
lemma secondRefresh_filtered {r : FetchRequest} {json : TimeCapsulePreviewResponse}
    (second : r.completion.secondRefresh = some id) {c : TimeCapsulePreview}
    (hc : c ∈ (s.fetchHandler keychain r (.decoded json)).store.model.filtered) :
    c ∈ (s.fetchHandler keychain r (.decoded json)).store.model.original := by
  obtain ⟨token, completion⟩ := r
  cases completion with
  | didConfirmDeletion data =>
    simp only [fetchHandler, fetchTimeCapsulesResult] at hc ⊢
    rw [TimeCapsulePreviewModel.fetchTimeCapsulePreviews_filtered] at hc
    exact List.mem_of_mem_filter hc
  | _ => cases second

/-- A purge goes on, or clears the capsule. -/
lemma step_purging (h : s.step keychain e = some t) (purging : s.Purging id)
    (unlisted : Unlisted id e) (purges : s.Purges id keychain e) : t.Vanishing id := by
  obtain ⟨answered, continued, _⟩ := purges
  rcases purging with ⟨x, hx, hid, result, ha, success⟩ | ⟨x, hx, first, clean⟩
  · have stays := step_deletion h hx (Q := fun x => ∃ result ∈ x.answer, result.value.isSome)
      ⟨result, ha, success⟩ fun _ _ _ _ none => by simp [Option.mem_def.1 ha] at none
    rcases stays with ⟨y, hy, hr, hq⟩ | ⟨deletions, result, hres, rfl⟩
    · exact .inl (.inl ⟨y, hy, hr ▸ hid, hq⟩)
    · cases (Option.mem_def.1 ha).symm.trans hres
      obtain ⟨response, hv⟩ := Option.isSome_iff_exists.1 success
      cases AFResult.value_eq_some.1 hv
      -- the accepted deletion is handled: its first refresh is sent
      refine .inl (.inr ⟨⟨⟨x.request.token, .confirmPressed x.request.data⟩, none⟩,
        Wire.mem_send.2 (.inr rfl), congrArg some hid, Wire.unanswered⟩)
  · have stays := step_fetch h hx (Q := Clean id) clean fun i response he hi none => by
      cases he
      exact clean_reply unlisted (answered x hi none (.inl first))
    rcases stays with ⟨y, hy, hr, hq⟩ | ⟨traffic, fetches, response, rfl, hw, ha, rfl⟩
    · exact .inl (.inr ⟨y, hy, hr ▸ first, hq⟩)
    · obtain ⟨json, hj, clean⟩ := clean response ha
      cases DataResponse.json_eq_some.1 hj
      exact firstRefresh_vanishing first clean
        (continued (x.request, .decoded json) (by rw [hw]; rfl) first)

/-- After an accepted deletion, a step that meets the conditions keeps the capsule vanishing. -/
lemma step_vanishing (h : s.step keychain e = some t) (vanishing : s.Vanishing id)
    (unlisted : Unlisted id e) (purges : s.Purges id keychain e) : t.Vanishing id := by
  by_cases purging : s.Purging id
  · exact step_purging h purging unlisted purges
  · -- no first refresh is pending: no list with the id may be handled any more
    obtain ⟨original, filtered⟩ := vanishing.resolve_left purging
    obtain ⟨answered, _, inTime⟩ := purges
    obtain ⟨original', back⟩ := step_unlisted h original fun d hd listed =>
      purging (inTime d hd listed)
    refine .inr ⟨original', fun shown => ?_⟩
    obtain ⟨x, hx, second, clean⟩ := filtered (back shown)
    have stays := step_fetch h hx (Q := Clean id) clean fun i response he hi none => by
      cases he
      exact clean_reply unlisted (answered x hi none (.inr ⟨second, back shown⟩))
    rcases stays with ⟨y, hy, hr, hq⟩ | ⟨traffic, fetches, response, rfl, hw, ha, rfl⟩
    · exact ⟨y, hy, hr ▸ second, hq⟩
    · obtain ⟨json, hj, _⟩ := clean response ha
      cases DataResponse.json_eq_some.1 hj
      obtain ⟨c, hc, hid⟩ := shown
      -- the second refresh was handled: the screen shows `original` again
      exact absurd ⟨c, secondRefresh_filtered second hc, hid⟩ original'

/-- When nothing is outstanding, a vanishing capsule is gone. -/
lemma Vanishing.gone (vanishing : s.Vanishing id) (quiet : s.Quiet) : s.Gone id := by
  obtain ⟨fetches, _, deletions⟩ := quiet
  rcases vanishing with (⟨x, hx, _⟩ | ⟨x, hx, _⟩) | ⟨original, filtered⟩
  · simp [deletions] at hx
  · simp [fetches] at hx
  · refine ⟨original, fun shown => ?_⟩
    obtain ⟨x, hx, _⟩ := filtered shown
    simp [fetches] at hx

end Step

end HomeScreen
end Home

namespace App

/-- The server lists the id no more. -/
def Unlisted (id : Int) : AppEvent → Prop
  | .session _ => True
  | .home e => HomeScreen.Unlisted id e

/-- The conditions on a step of the app after the DELETE of an id was accepted. -/
def Purges (id : Int) (a : App) : AppEvent → Prop
  | .session _ => True
  | .home e => a.home.Purges id a.session.keychain e

instance (id : Int) : DecidablePred (Unlisted id)
  | .session _ => inferInstanceAs (Decidable True)
  | .home e => inferInstanceAs (Decidable (HomeScreen.Unlisted id e))

instance (id : Int) (a : App) : DecidablePred (a.Purges id)
  | .session _ => inferInstanceAs (Decidable True)
  | .home e => inferInstanceAs (Decidable (a.home.Purges id a.session.keychain e))

/-- A step that meets the conditions keeps the capsule vanishing. -/
lemma step_vanishing {id : Int} (a : App) (e : AppEvent) (vanishing : a.home.Vanishing id)
    (h : Unlisted id e ∧ a.Purges id e) : Run.After step (fun a => a.home.Vanishing id) a e := by
  intro b hb
  cases step_inv hb with
  | session _ sends =>
    exact vanishing.mono sends.store (fun x hx => sends.deletions ▸ hx) sends.fetches
  | home hs => exact HomeScreen.step_vanishing hs vanishing h.1 h.2

/-- If the server accepts the DELETE of a capsule and lists it no more, the capsule is gone whenever
nothing is outstanding, provided that the two refreshes of the deletion get through and no older
list is handled after the first of them. -/
theorem deleted_stays_away {a b : App} {i : Nat} {r : DeleteRequest} {response : DeleteResponse}
    (sent : a.home.deletions[i]? = some ⟨r, none⟩)
    (accepted : a.step (.home (.deletion (.reply i (.success response)))) = some b)
    {es : List AppEvent}
    (h : Run.Steps step (fun a e => Unlisted r.data.id e ∧ a.Purges r.data.id e) b es) :
    Run.Always step (fun a => a.home.Quiet → a.home.Gone r.data.id) b es := by
  have init : b.home.Vanishing r.data.id := by
    simp only [step, HomeScreen.step, Wire.step, sent] at accepted
    cases accepted
    refine .inl (.inl ⟨⟨r, some (.success response)⟩, ?_, rfl, _, rfl, rfl⟩)
    exact List.mem_set (List.getElem?_eq_some_iff.1 sent).1 _
  exact (Run.always_of_steps step_vanishing init h).mono fun _ => HomeScreen.Vanishing.gone

/-- A deletion whose refreshes are both answered, with a list of before the DELETE handled between
its answer and the first of them. -/
theorem deleted_stays_away_refreshed :
    Run.Always step (fun a => a.home.Quiet → a.home.Gone 1)
      { session := .launch ((∅ : Keychain).save "r" .refreshToken)
        home := {
          store := .launch ⟨fun _ _ => none, ⟨"", ""⟩, fun _ => 0⟩
          fetches := [⟨⟨"r", .fetchdata⟩,
            some (.decoded ⟨true, "200", "OK", [⟨1, 1, false, "t", "가족", "", "", ""⟩]⟩)⟩]
          deletions := [⟨⟨"r", ⟨1, 1, false, "t", "가족", "", "", ""⟩⟩,
            some (.success ⟨true, "200", "OK", ""⟩)⟩] } }
      [.home (.deletion (.deliver 0)), .home (.fetch (.deliver 0)),
        .home (.fetch (.reply 0 (.decoded ⟨true, "200", "OK", []⟩))),
        .home (.fetch (.deliver 0)),
        .home (.fetch (.reply 0 (.decoded ⟨true, "200", "OK", []⟩))),
        .home (.fetch (.deliver 0))] :=
  deleted_stays_away (i := 0)
    (a := {
      session := .launch ((∅ : Keychain).save "r" .refreshToken)
      home := {
        store := .launch ⟨fun _ _ => none, ⟨"", ""⟩, fun _ => 0⟩
        fetches := [⟨⟨"r", .fetchdata⟩,
          some (.decoded ⟨true, "200", "OK", [⟨1, 1, false, "t", "가족", "", "", ""⟩]⟩)⟩]
        deletions := [⟨⟨"r", ⟨1, 1, false, "t", "가족", "", "", ""⟩⟩, none⟩] } })
    rfl rfl (by decide)

/-- The first refresh of an accepted deletion fails: the capsule stays. -/
theorem deleted_stays :
    ¬ ∀ (keychain : Keychain) (p : Process) (es fs : List AppEvent) (a b : App) (i : Nat)
      (r : DeleteRequest) (response : DeleteResponse),
      Run.exec step (launch keychain p) es = some a →
      a.home.deletions[i]? = some ⟨r, none⟩ →
      response.isSuccess = true →
      a.step (.home (.deletion (.reply i (.success response)))) = some b →
      Run.Steps step (fun _ e => Unlisted r.data.id e) b fs →
      Run.Always step (fun a => a.home.Quiet → a.home.Gone r.data.id) b fs := by
  intro h
  have run := h ((∅ : Keychain).save "r" .refreshToken) ⟨fun _ _ => none, ⟨"", ""⟩, fun _ => 0⟩
    [.home (.fetch (.reply 0
        (.decoded ⟨true, "200", "OK", [⟨1, 1, false, "t", "가족", "", "", ""⟩]⟩))),
      .home (.fetch (.deliver 0)), .home (.confirmPressed ⟨1, 1, false, "t", "가족", "", "", ""⟩)]
    [.home (.deletion (.deliver 0)), .home (.fetch (.reply 0 .failure)), .home (.fetch (.deliver 0))]
    _ _ 0 _ ⟨true, "200", "OK", ""⟩ rfl rfl rfl rfl (by decide)
  revert run
  decide

end App

end TimeCapsule
