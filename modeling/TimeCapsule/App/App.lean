import TimeCapsule.Home.HomeSteps
import TimeCapsule.Login.Session

/-!
# The app

The session and the home screen together. A scene connection that finds a token builds a new home
screen, which loads at once; the store behind it is static and stays. A screen that is no longer the
root still gets its answers, because the closures keep it alive.

`step_home` reduces what a step does to the home screen to sending requests and to the steps of
`HomeScreen.step`; `reaches_store` makes every run of the app a run of the store.
-/

namespace TimeCapsule
open Foundation Home Login

structure App where
  session : Session
  home : HomeScreen

inductive AppEvent where
  | session (e : SessionEvent)
  | home (e : HomeEvent)
deriving DecidableEq, Repr

namespace App

/-- The new home screen of a scene connection loads its list. -/
def load (a : App) : App :=
  if a.session.root = .home then
    let home := a.home.viewDidLoad a.session.keychain
    { a with home := home.viewWillAppear a.session.keychain }
  else
    a

def step (a : App) : AppEvent → Option App
  | .session e => do
    let session ← a.session.step e
    if e = .willConnect then some { a with session }.load else some { a with session }
  | .home e => do
    let home ← a.home.step a.session.keychain e
    some { a with home }

/-- A process that has found `keychain` and connected its first scene. -/
def launch (keychain : Keychain) (p : Process) : App :=
  load { session := .launch keychain, home := { store := .launch p } }

variable {a b : App}

/-- Loading only sends requests. -/
lemma load_sends (a : App) : HomeScreen.Sends a.session.keychain a.home a.load.home := by
  unfold load
  split
  · exact HomeScreen.viewDidLoad_sends.trans HomeScreen.fetchdata_sends
  · exact .refl _

/-- Loading is no business of the session. -/
@[simp]
lemma load_session (a : App) : a.load.session = a.session := by
  unfold load
  split <;> rfl

/-- The kinds of steps of the app. -/
inductive Step (a : App) : AppEvent → App → Prop where
  | session {e session home} :
    a.session.step e = some session →
    HomeScreen.Sends session.keychain a.home home →
    Step a (.session e) { session, home }
  | home {e home} :
    a.home.step a.session.keychain e = some home →
    Step a (.home e) { a with home }

/-- Inversion of `step`. -/
lemma step_inv {e : AppEvent} (h : a.step e = some b) : Step a e b := by
  cases e with
  | session e =>
    obtain ⟨session, hs, h⟩ := Option.bind_eq_some_iff.1 h
    split at h
    · cases h
      have sends := load_sends { a with session }
      have same := load_session { a with session }
      generalize load { a with session } = b at sends same
      obtain ⟨_, home⟩ := b
      cases same
      exact .session hs sends
    · cases h
      exact .session hs (.refl _)
  | home e =>
    obtain ⟨home, hs, h⟩ := Option.bind_eq_some_iff.1 h
    cases h
    exact .home hs

/-- A launched app has sent requests and done nothing else. -/
lemma launch_sends (keychain : Keychain) (p : Process) :
    HomeScreen.Sends (Session.launch keychain).keychain { store := .launch p }
      (launch keychain p).home :=
  load_sends { session := .launch keychain, home := { store := .launch p } }

/-- What a step does to the store. -/
lemma step_store {e : AppEvent} (h : a.step e = some b) :
    Run.Reaches Store.step a.home.store b.home.store := by
  cases step_inv h with
  | session _ sends => exact ⟨[], congrArg some sends.store.symm⟩
  | home hs => exact ⟨_, HomeScreen.step_store hs⟩

/-- The store of a running app is a state of the store's own machine. -/
theorem reaches_store {keychain : Keychain} {p : Process}
    (h : Run.Reaches step (launch keychain p) a) :
    Run.Reaches Store.step (.launch p) a.home.store := by
  obtain ⟨es, h⟩ := h
  have init : Run.Reaches Store.step (.launch p) (launch keychain p).home.store :=
    ⟨[], congrArg some (launch_sends keychain p).store.symm⟩
  exact Run.exec_inv (I := fun b => Run.Reaches Store.step (.launch p) b.home.store)
    (fun _ _ _ reached _ h => reached.trans (step_store h)) init h

end App

end TimeCapsule
