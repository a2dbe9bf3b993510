import TimeCapsule.App.App

/-!
# Tokens after a logout

A logout deletes the tokens from the keychain, and what the home screen sends afterwards it sends
with a token from the keychain, with one exception: the closure of a deletion keeps the token of the
DELETE for its first refresh. `revoked_unused_iff` says that a run uses no token of an earlier
session while nobody is logged in just when the success of no DELETE is handled meanwhile.

`History` is a history variable. A token is loaded right before the first request that carries it,
so the tokens loaded so far are those of the requests issued so far.
-/

namespace TimeCapsule
open Foundation Home Login

/-- The accepted answer of a logout that is handled at this step. -/
def Login.Session.loggedOut (s : Session) : SessionEvent → Option DeleteUserResponse
  | .logout traffic => do
    let (_, result) ← (s.logouts.step traffic).2
    result.accepted
  | _ => none

namespace Home.HomeScreen

/-- The tokens of the requests that `t` has sent since `s`. -/
def sent (s t : HomeScreen) : List String :=
  (s.fetches.sent t.fetches).map FetchRequest.token ++
    (s.pages.sent t.pages).map PageRequest.token ++
    (s.deletions.sent t.deletions).map DeleteRequest.token

/-- The tokens that the closures of successful deletions send their first refresh with. -/
def kept (s : HomeScreen) : HomeEvent → List String
  | .deletion traffic => (s.deletions.step traffic).2.elim [] fun (r, result) =>
    if result.value.isSome then [r.token] else []
  | _ => []

end Home.HomeScreen

namespace App

/-- The tokens of the requests that the home screen and the deletion flow issue at a step. -/
def issued (a : App) (e : AppEvent) : List String :=
  match a.step e with
  | some b =>
    match e with
    | .session _ => a.home.sent b.home
    | .home e => (a.home.moved e).sent b.home
  | none => []

/-- The tokens loaded so far, and while nobody is logged in those of them that were loaded before
the logout. -/
structure History where
  loaded : List String
  revoked : Option (List String) := none
deriving DecidableEq, Repr

def note (a : App) (e : AppEvent) (h : History) : History where
  loaded := h.loaded ++ a.issued e
  revoked :=
    match e with
    | .session e =>
      if (a.session.loggedOut e).isSome then some h.loaded
      else if (a.session.loggedIn e).isSome then none
      else h.revoked
    | .home _ => h.revoked

/-- A launched app with its history. -/
def launched (keychain : Keychain) (p : Process) : App × History :=
  (launch keychain p,
    { loaded := HomeScreen.sent { store := .launch p } (launch keychain p).home })

/-- While nobody is logged in, no request carries a token that was loaded before the logout. -/
def RevokedUnused (s : App × History) (e : AppEvent) : Prop :=
  ∀ revoked ∈ s.2.revoked, ∀ token ∈ s.1.issued e, token ∉ revoked

/-- While nobody is logged in, the success of no DELETE is handled. -/
def DeletionsSettled (s : App × History) : AppEvent → Prop
  | .home (.deletion traffic) => s.2.revoked.isSome →
    ∀ d ∈ (s.1.home.deletions.step traffic).2, d.2.value = none
  | _ => True

instance (s : App × History) : DecidablePred (RevokedUnused s) := fun e =>
  inferInstanceAs (Decidable (∀ revoked ∈ s.2.revoked, ∀ token ∈ s.1.issued e, token ∉ revoked))

/-- The token of an outstanding deletion has been loaded, and before the logout if there was one. -/
structure Traced (s : App × History) : Prop where
  loaded : ∀ x ∈ s.1.home.deletions, x.request.token ∈ s.2.loaded
  signedOut : ∀ revoked ∈ s.2.revoked, s.1.session.keychain.load .refreshToken = none
  revoked : ∀ revoked ∈ s.2.revoked, ∀ x ∈ s.1.home.deletions, x.request.token ∈ revoked

end App

/-! ## Without a token -/

namespace Login.Session
variable {s t : Session} {e : SessionEvent}

/-- A logout that is handled leaves no token. -/
lemma step_loggedOut (h : s.step e = some t) (out : (s.loggedOut e).isSome) :
    t.keychain.load .refreshToken = none := by
  cases e with
  | logout traffic =>
    obtain ⟨logouts, d, hw⟩ := s.logouts.exists_step traffic
    simp only [loggedOut, hw] at out
    simp only [step, hw] at h
    cases d with
    | none => simp at out
    | some d =>
      obtain ⟨response, accepted⟩ := Option.isSome_iff_exists.1 out
      cases h
      have accepted : d.2.accepted = some response := accepted
      rw [signOutHandler_eq, accepted]
      exact Keychain.load_delete _ _
  | _ => simp [loggedOut] at out

/-- Only a login brings a token. -/
lemma step_noToken (h : s.step e = some t) (login : s.loggedIn e = none)
    (noToken : s.keychain.load .refreshToken = none) : t.keychain.load .refreshToken = none := by
  have effect := step_inv h
  generalize t.keychain = keychain, t.root = root, t.delayed = delayed at effect ⊢
  cases effect with
  | keeps | connects | resets | transitions => exact noToken
  | logsIn login' => simp [login] at login'
  | signsOut => exact Keychain.load_delete _ _

end Login.Session

namespace Home.HomeScreen
variable {keychain : Keychain} {s t : HomeScreen} {e : HomeEvent}

/-- Nothing has been sent since now. -/
@[simp]
lemma sent_self (s : HomeScreen) : s.sent s = [] := by
  simp [sent]

/-- What has been sent depends on the wires only. -/
lemma sent_eq_nil (fetches : t.fetches = s.fetches) (pages : t.pages = s.pages)
    (deletions : t.deletions = s.deletions) : s.sent t = [] := by
  simp [sent, fetches, pages, deletions]

/-- Without a token `fetchdata` sends nothing. -/
lemma fetchdata_noToken (noToken : keychain.load .refreshToken = none) : s.fetchdata keychain = s := by
  simp only [fetchdata, noToken]

/-- Without a token `fetchdataPagination` sends nothing. -/
lemma fetchdataPagination_noToken (noToken : keychain.load .refreshToken = none) :
    s.fetchdataPagination keychain = s := by
  simp only [fetchdataPagination, noToken]

/-- Without a token `viewDidLoad` sends nothing. -/
lemma viewDidLoad_noToken (noToken : keychain.load .refreshToken = none) :
    s.viewDidLoad keychain = s := by
  simp only [viewDidLoad, noToken]

/-- Without a token a list handler sends nothing. -/
lemma fetchHandler_noToken (noToken : keychain.load .refreshToken = none) (r : FetchRequest)
    (response : DataResponse TimeCapsulePreviewResponse) :
    s.sent (s.fetchHandler keychain r response) = [] := by
  obtain ⟨pages, deletions⟩ : (s.fetchHandler keychain r response).pages = s.pages ∧
      (s.fetchHandler keychain r response).deletions = s.deletions := fetchHandler_wires
  refine sent_eq_nil ?_ pages deletions
  obtain ⟨token, completion⟩ := r
  cases response with
  | decoded json =>
    cases completion with
    | confirmPressed data =>
      simp only [fetchHandler, fetchTimeCapsulesResult, didConfirmDeletion, noToken]
    | _ => rfl
  | _ => rfl

/-- Without a token a step sends what the closures of deletions send. -/
lemma step_noToken (noToken : keychain.load .refreshToken = none) (h : s.step keychain e = some t) :
    (s.moved e).sent t = s.kept e := by
  cases e with
  | viewWillAppear =>
    cases h
    rw [viewWillAppear, fetchdata_noToken noToken]
    exact sent_self s
  | scrollViewDidScroll =>
    cases h
    simp only [scrollViewDidScroll, fetchdataPagination_noToken noToken, ite_self]
    exact sent_self s
  | confirmPressed data =>
    cases h
    simp only [confirmPressed, noToken]
    exact sent_self s
  | handleTagButtonTap sender => cases h; exact sent_eq_nil rfl rfl rfl
  | toggleCapsuleViewButton sender => cases h; exact sent_eq_nil rfl rfl rfl
  | sort action =>
    obtain ⟨store, _, h⟩ := Option.bind_eq_some_iff.1 h
    cases h
    exact sent_eq_nil rfl rfl rfl
  | fetch traffic =>
    obtain ⟨fetches, d, hw⟩ := s.fetches.exists_step traffic
    simp only [step, hw] at h
    simp only [moved, hw, kept]
    cases d with
    | none => cases h; exact sent_self _
    | some d => cases h; exact fetchHandler_noToken noToken d.1 d.2
  | page traffic =>
    obtain ⟨pages, d, hw⟩ := s.pages.exists_step traffic
    simp only [step, hw] at h
    simp only [moved, hw, kept]
    cases d with
    | none => cases h; exact sent_self _
    | some d =>
      cases h
      obtain ⟨fetches, pages, deletions⟩ := pageHandler_wires { s with pages } d.1 d.2
      exact sent_eq_nil fetches pages deletions
  | deletion traffic =>
    obtain ⟨deletions, d, hw⟩ := s.deletions.exists_step traffic
    simp only [step, hw] at h
    simp only [moved, hw, kept]
    cases d with
    | none => cases h; exact sent_self _
    | some d =>
      obtain ⟨r, result⟩ := d
      cases h
      cases result with
      | success => simp [sent, deletionHandler, fetchTimeCapsules, AFResult.value]
      | failure => exact sent_self _

/-- A deletion that is outstanding after a step was so before, or has been sent with the stored
token. -/
lemma step_deletions (h : s.step keychain e = some t)
    {x : Exchange DeleteRequest (AFResult DeleteResponse)} (hx : x ∈ t.deletions) :
    (∃ y ∈ s.deletions, y.request = x.request) ∨
      keychain.load .refreshToken = some x.request.token ∧ x.request.token ∈ (s.moved e).sent t := by
  cases step_inv h with
  | sends sends => exact .inl ⟨x, sends.deletions ▸ hx, rfl⟩
  | @deletes token data hk =>
    rcases Wire.mem_send.1 hx with hx | rfl
    · exact .inl ⟨x, hx, rfl⟩
    · exact .inr ⟨hk, by simp [sent, moved, deleteTimeCapsule]⟩
  | tap => exact .inl ⟨x, hx, rfl⟩
  | fetchMoves => exact .inl ⟨x, hx, rfl⟩
  | fetchHandled =>
    rw [fetchHandler_wires.2] at hx
    exact .inl ⟨x, hx, rfl⟩
  | pageMoves => exact .inl ⟨x, hx, rfl⟩
  | pageHandled =>
    rw [(pageHandler_wires _ _ _).2.2] at hx
    exact .inl ⟨x, hx, rfl⟩
  | deletionMoves hw => exact .inl ((Wire.moves_of_step hw).request hx)
  | deletionHandled hw =>
    rw [deletionHandler_deletions] at hx
    exact .inl ((Wire.moves_of_step hw).request hx)

/-- What the closures of deletions send carries the token of an outstanding deletion. -/
lemma mem_kept {token : String} (h : token ∈ s.kept e) :
    ∃ x ∈ s.deletions, x.request.token = token := by
  cases e with
  | deletion traffic =>
    obtain ⟨deletions, d, hw⟩ := s.deletions.exists_step traffic
    simp only [kept, hw] at h
    cases d with
    | none => cases h
    | some d =>
      have outstanding := (Wire.moves_of_step hw).delivered (r := d.1) (a := d.2) rfl
      simp only [Option.elim_some] at h
      split at h
      · exact ⟨_, outstanding, (List.mem_singleton.1 h).symm⟩
      · cases h
  | _ => cases h

/-- A step that traps handles no deletion. -/
lemma kept_of_trap (h : s.step keychain e = none) : s.kept e = [] := by
  cases e with
  | deletion traffic =>
    simp only [step] at h
    split at h <;> cases h
  | _ => rfl

/-- The closures of deletions send nothing exactly if the success of no deletion is handled. -/
lemma kept_eq_nil_iff {traffic : DeleteTraffic} :
    s.kept (.deletion traffic) = [] ↔
      ∀ d ∈ (s.deletions.step traffic).2, d.2.value = none := by
  cases hd : (s.deletions.step traffic).2 with
  | none => simp [kept, hd]
  | some d => simp [kept, hd]

end Home.HomeScreen

namespace App
variable {a b : App} {s : App × History}

/-- Without a token a new home screen sends nothing. -/
lemma load_noToken (noToken : a.session.keychain.load .refreshToken = none) :
    a.load.home = a.home := by
  unfold load
  split
  · simp only [HomeScreen.viewDidLoad_noToken noToken, HomeScreen.viewWillAppear,
      HomeScreen.fetchdata_noToken noToken]
  · rfl

/-- Without a token a step of the session sends nothing. -/
lemma issued_session {e : SessionEvent} (noToken : a.session.keychain.load .refreshToken = none) :
    a.issued (.session e) = [] := by
  cases hb : a.step (.session e) with
  | none => simp only [issued, hb]
  | some b =>
    simp only [issued, hb]
    obtain ⟨session, hs, h⟩ := Option.bind_eq_some_iff.1 hb
    split at h
    · next connects =>
      subst connects
      have same : (load { a with session }).home = a.home :=
        load_noToken (Session.step_noToken hs rfl noToken)
      cases h
      exact (congrArg a.home.sent same).trans (HomeScreen.sent_self _)
    · cases h
      exact HomeScreen.sent_self _

/-- Without a token a step of the home screen sends what the closures of deletions send. -/
lemma issued_home {e : HomeEvent} (noToken : a.session.keychain.load .refreshToken = none) :
    a.issued (.home e) = a.home.kept e := by
  cases hs : a.home.step a.session.keychain e with
  | none =>
    have hb : a.step (.home e) = none := by simp [step, hs]
    simp only [issued, hb]
    exact (HomeScreen.kept_of_trap hs).symm
  | some home =>
    have hb : a.step (.home e) = some { a with home } := by simp [step, hs]
    simp only [issued, hb]
    exact HomeScreen.step_noToken noToken hs

/-- Deletions are traced through a step of the session. -/
lemma traced_session {e : SessionEvent} {h : History} (traced : Traced (a, h))
    (hb : a.step (.session e) = some b) : Traced (b, a.note (.session e) h) := by
  cases step_inv hb with
  | @session _ session home hs sends =>
    obtain ⟨loaded, signedOut, before⟩ := traced
    have deletions : home.deletions = a.home.deletions := sends.deletions
    refine ⟨fun x hx => ?_, fun revoked hr => ?_, fun revoked hr x hx => ?_⟩
    · exact List.mem_append_left _ (loaded x (deletions ▸ hx))
    · simp only [note] at hr
      split at hr
      · next out => exact Session.step_loggedOut hs out
      · split at hr
        · cases hr
        · next login =>
          have login : a.session.loggedIn e = none := by simpa using login
          exact Session.step_noToken hs login (signedOut revoked hr)
    · simp only [note] at hr
      split at hr
      · cases hr
        exact loaded x (deletions ▸ hx)
      · split at hr
        · cases hr
        · exact before revoked hr x (deletions ▸ hx)

/-- Deletions are traced through a step of the home screen. -/
lemma traced_home {e : HomeEvent} {h : History} (traced : Traced (a, h))
    (hb : a.step (.home e) = some b) : Traced (b, a.note (.home e) h) := by
  obtain ⟨loaded, signedOut, before⟩ := traced
  have issued : a.issued (.home e) = (a.home.moved e).sent b.home := by simp only [issued, hb]
  obtain ⟨home, hs, hb⟩ := Option.bind_eq_some_iff.1 hb
  cases hb
  refine ⟨fun x hx => ?_, signedOut, fun revoked hr x hx => ?_⟩
  · rcases HomeScreen.step_deletions hs hx with ⟨y, hy, hr⟩ | ⟨_, sent⟩
    · exact List.mem_append_left _ (hr ▸ loaded y hy)
    · exact List.mem_append_right _ (issued ▸ sent)
  · rcases HomeScreen.step_deletions hs hx with ⟨y, hy, hreq⟩ | ⟨token, _⟩
    · exact hreq ▸ before revoked hr y hy
    · rw [signedOut revoked hr] at token
      cases token

/-- Every step keeps deletions traced. -/
lemma step_traced (s : App × History) (e : AppEvent) (traced : Traced s) :
    Run.After (Run.record step note) Traced s e := by
  rintro ⟨b, h⟩ ht
  obtain ⟨hb, rfl⟩ := Run.mem_record.1 ht
  cases e with
  | session e => exact traced_session traced hb
  | home e => exact traced_home traced hb

/-- After a logout, a step of the home screen uses no revoked token exactly if the closures of
deletions send nothing. -/
lemma unused_iff_kept {e : HomeEvent} {h : History} {revoked : List String} (traced : Traced (a, h))
    (hr : h.revoked = some revoked) :
    (∀ token ∈ a.issued (.home e), token ∉ revoked) ↔ a.home.kept e = [] := by
  have noToken := traced.signedOut revoked hr
  constructor
  · intro unused
    apply List.eq_nil_iff_forall_not_mem.2
    intro token ht
    obtain ⟨x, hx, rfl⟩ := HomeScreen.mem_kept ht
    rw [← issued_home noToken] at ht
    exact unused _ ht (traced.revoked revoked hr x hx)
  · intro nil
    rw [issued_home noToken, nil]
    exact List.forall_mem_nil _

/-- A step uses no revoked token just when it settles no deletion after a logout. -/
lemma unused_iff_settled (s : App × History) (e : AppEvent) (traced : Traced s) :
    RevokedUnused s e ↔ DeletionsSettled s e := by
  obtain ⟨a, h⟩ := s
  cases hr : h.revoked with
  | none =>
    have unused : RevokedUnused (a, h) e := fun revoked hm => by simp [hr] at hm
    refine iff_of_true unused ?_
    unfold DeletionsSettled
    split
    · simp [hr]
    · trivial
  | some revoked =>
    have some_iff : RevokedUnused (a, h) e ↔ ∀ token ∈ a.issued e, token ∉ revoked := by
      simp [RevokedUnused, hr]
    rw [some_iff]
    cases e with
    | session e =>
      rw [issued_session (traced.signedOut revoked hr)]
      exact iff_of_true (List.forall_mem_nil _) trivial
    | home e =>
      rw [unused_iff_kept traced hr]
      cases e with
      | deletion traffic =>
        rw [HomeScreen.kept_eq_nil_iff]
        simp [DeletionsSettled, hr]
      | _ => exact iff_of_true rfl trivial

/-- A run uses no token of an earlier session while nobody is logged in exactly if the success of
no DELETE is handled meanwhile. -/
theorem revoked_unused_iff (keychain : Keychain) (p : Process) (es : List AppEvent) :
    Run.Steps (Run.record step note) RevokedUnused (launched keychain p) es ↔
      Run.Steps (Run.record step note) DeletionsSettled (launched keychain p) es := by
  have init : Traced (launched keychain p) := by
    have sends := launch_sends keychain p
    refine ⟨fun x hx => ?_, fun _ hr => ?_, fun _ hr => ?_⟩
    · rw [show (launched keychain p).1.home.deletions = [] from sends.deletions] at hx
      cases hx
    · cases hr
    · cases hr
  exact Run.Steps.congr step_traced unused_iff_settled init

/-- The DELETE of a capsule is under way when the logout is answered; its own answer comes then, and
the list is asked for with the token of the user who has left. -/
theorem revoked_used :
    ¬ ∀ (keychain : Keychain) (p : Process) (es : List AppEvent),
      Run.Steps (Run.record step note) RevokedUnused (launched keychain p) es := by
  intro h
  have run := h (((∅ : Keychain).save "a" .accessToken).save "r" .refreshToken)
    ⟨fun _ _ => none, ⟨"", ""⟩, fun _ => 0⟩
    [.home (.fetch (.reply 0
        (.decoded ⟨true, "200", "OK", [⟨1, 1, false, "t", "가족", "", "", ""⟩]⟩))),
      .home (.fetch (.deliver 0)),
      .home (.confirmPressed ⟨1, 1, false, "t", "가족", "", "", ""⟩),
      .session .logoutButtonTapped,
      .session (.logout (.reply 0 (.success ⟨true, "200", "OK", none⟩))),
      .session (.logout (.deliver 0)),
      .home (.deletion (.reply 0 (.success ⟨true, "200", "OK", "deleted"⟩))),
      .home (.deletion (.deliver 0))]
  revert run
  decide

end App

end TimeCapsule
