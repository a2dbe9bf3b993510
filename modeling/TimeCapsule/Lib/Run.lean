import Mathlib

/-!
# Runs of a partial step function

A component is a step function `σ → ε → Option σ`: an event leads to one next state or traps
(`none`), and nothing happens after a trap. `Run.exec` executes a list of events; `Run.Steps` says
that a condition on the state and the event holds at every step that is taken; `Run.Always` says
that a predicate holds in every state a run passes through.

The rules are the usual ones: `Steps.inv` threads an invariant through the steps of a run,
`always_of_steps` packages the induction of a safety proof, and `always_iff_steps` is its exact
form, for an invariant that a step keeps precisely when its condition holds.
-/

namespace Run

variable {σ ε : Type*} {step : σ → ε → Option σ}

/-- The state after a list of events, `none` once a step has trapped. -/
def exec (step : σ → ε → Option σ) : σ → List ε → Option σ
  | s, [] => some s
  | s, e :: es => (step s e).bind (exec step · es)

/-- `C` holds of the state and the event at every step of the run. -/
def Steps (step : σ → ε → Option σ) (C : σ → ε → Prop) : σ → List ε → Prop
  | _, [] => True
  | s, e :: es => C s e ∧ ∀ t ∈ step s e, Steps step C t es

/-- `P` holds after the step that the event takes. -/
def After (step : σ → ε → Option σ) (P : σ → Prop) (s : σ) (e : ε) : Prop :=
  ∀ t ∈ step s e, P t

/-- `P` holds in every state of the run, the first one included. -/
def Always (step : σ → ε → Option σ) (P : σ → Prop) (s : σ) (es : List ε) : Prop :=
  P s ∧ Steps step (After step P) s es

instance Steps.decidable (C : σ → ε → Prop) [∀ s e, Decidable (C s e)] :
    ∀ s es, Decidable (Steps step C s es)
  | _, [] => inferInstanceAs (Decidable True)
  | s, e :: es =>
    have : DecidablePred fun t => Steps step C t es := fun t => Steps.decidable C t es
    inferInstanceAs (Decidable (C s e ∧ ∀ t ∈ step s e, Steps step C t es))

instance (P : σ → Prop) [DecidablePred P] (s : σ) (e : ε) : Decidable (After step P s e) :=
  inferInstanceAs (Decidable (∀ t ∈ step s e, P t))

instance (P : σ → Prop) [DecidablePred P] (s : σ) (es : List ε) :
    Decidable (Always step P s es) :=
  inferInstanceAs (Decidable (P s ∧ Steps step (After step P) s es))

/-- The same steps, with a history next to the state that notes what has happened. -/
def record {η : Type*} (step : σ → ε → Option σ) (note : σ → ε → η → η) (s : σ × η) (e : ε) :
    Option (σ × η) :=
  (step s.1 e).map fun t => (t, note s.1 e s.2)

/-- A state is reached from another by some list of events. -/
def Reaches (step : σ → ε → Option σ) (s t : σ) : Prop :=
  ∃ es, exec step s es = some t

@[simp]
lemma exec_nil (s : σ) : exec step s [] = some s := rfl

@[simp]
lemma exec_cons (s : σ) (e : ε) (es : List ε) :
    exec step s (e :: es) = (step s e).bind (exec step · es) := rfl

/-- What holds after a step that is taken holds of the state it leads to. -/
lemma after_iff_of_step {P : σ → Prop} {s t : σ} {e : ε} (h : step s e = some t) :
    After step P s e ↔ P t := by
  rw [After, h]
  constructor
  · intro after
    exact after t rfl
  · intro p u hu
    cases hu
    exact p

/-- A recorded step is a step, and notes it. -/
lemma mem_record {η : Type*} {note : σ → ε → η → η} {s t : σ × η} {e : ε} :
    t ∈ record step note s e ↔ step s.1 e = some t.1 ∧ t.2 = note s.1 e s.2 := by
  rw [record, Option.mem_map]
  constructor
  · rintro ⟨u, hu, rfl⟩
    exact ⟨hu, rfl⟩
  · rintro ⟨hu, hn⟩
    exact ⟨t.1, hu, by rw [← hn]⟩

/-- Executing a concatenation executes its parts in order. -/
lemma exec_append (s : σ) (es fs : List ε) :
    exec step s (es ++ fs) = (exec step s es).bind (exec step · fs) := by
  induction es generalizing s with
  | nil => rfl
  | cons e es ih =>
    cases h : step s e with
    | none => simp [h]
    | some t => simp [h, ih]

/-- Reachability is transitive. -/
lemma Reaches.trans {s t u : σ} (h1 : Reaches step s t) (h2 : Reaches step t u) :
    Reaches step s u := by
  obtain ⟨es, h1⟩ := h1
  obtain ⟨fs, h2⟩ := h2
  exact ⟨es ++ fs, by rw [exec_append, h1]; exact h2⟩

/-- Two conditions that hold at every step hold together. -/
lemma Steps.and {C D : σ → ε → Prop} {s : σ} {es : List ε} (h1 : Steps step C s es)
    (h2 : Steps step D s es) : Steps step (fun s e => C s e ∧ D s e) s es := by
  induction es generalizing s with
  | nil => exact trivial
  | cons e es ih =>
    obtain ⟨c, r1⟩ := h1
    obtain ⟨d, r2⟩ := h2
    exact ⟨⟨c, d⟩, fun t ht => ih (r1 t ht) (r2 t ht)⟩

/-- The invariant rule: `I` is kept by the steps that meet `C`, and with `C` it yields `D`. -/
lemma Steps.inv {I : σ → Prop} {C D : σ → ε → Prop}
    (keep : ∀ s e, I s → C s e → After step I s e)
    (use : ∀ s e, I s → C s e → D s e)
    {s : σ} {es : List ε} (init : I s) (h : Steps step C s es) : Steps step D s es := by
  induction es generalizing s with
  | nil => exact trivial
  | cons e es ih =>
    obtain ⟨c, rest⟩ := h
    exact ⟨use s e init c, fun t ht => ih (keep s e init c t ht) (rest t ht)⟩

/-- Under an invariant that every step keeps, conditions may be exchanged for equivalent ones. -/
lemma Steps.congr {I : σ → Prop} {C D : σ → ε → Prop} (keep : ∀ s e, I s → After step I s e)
    (iff : ∀ s e, I s → (C s e ↔ D s e)) {s : σ} {es : List ε} (init : I s) :
    Steps step C s es ↔ Steps step D s es :=
  ⟨fun h => h.inv (fun s e i _ => keep s e i) (fun s e i c => (iff s e i).1 c) init,
    fun h => h.inv (fun s e i _ => keep s e i) (fun s e i d => (iff s e i).2 d) init⟩

/-- A weaker condition holds at every step as well. -/
lemma Steps.mono {C D : σ → ε → Prop} (sub : ∀ s e, C s e → D s e)
    {s : σ} {es : List ε} (h : Steps step C s es) : Steps step D s es :=
  h.inv (I := fun _ => True) (fun _ _ _ _ _ _ => trivial) (fun s e _ => sub s e) trivial

/-- The safety rule: an invariant kept by the steps that meet `C` holds along such a run. -/
theorem always_of_steps {I : σ → Prop} {C : σ → ε → Prop}
    (keep : ∀ s e, I s → C s e → After step I s e)
    {s : σ} {es : List ε} (init : I s) (h : Steps step C s es) : Always step I s es :=
  ⟨init, h.inv keep keep init⟩

/-- The safety rule for an invariant that every step keeps. -/
theorem always_of_keeps {I : σ → Prop} (keep : ∀ s e, I s → After step I s e)
    {s : σ} (init : I s) (es : List ε) : Always step I s es := by
  refine ⟨init, ?_⟩
  induction es generalizing s with
  | nil => exact trivial
  | cons e es ih => exact ⟨keep s e init, fun t ht => ih (keep s e init t ht)⟩

/-- The safety rule for an invariant that the events of the run keep. -/
theorem always_of_keeps_on {I : σ → Prop} {s : σ} {es : List ε}
    (keep : ∀ s, ∀ e ∈ es, I s → After step I s e) (init : I s) : Always step I s es := by
  refine ⟨init, ?_⟩
  induction es generalizing s with
  | nil => exact trivial
  | cons e es ih =>
    have after := keep s e (.head _) init
    exact ⟨after, fun t ht => ih (fun s e he => keep s e (.tail _ he)) (after t ht)⟩

/-- The exact safety rule: next to an invariant `J` that every step keeps, `I` holds along a run
just when each step meets its condition. Only the events of the run have to be looked at. -/
theorem always_iff_steps_on {I J : σ → Prop} {C : σ → ε → Prop} {s : σ} {es : List ε}
    (side : ∀ s, ∀ e ∈ es, J s → After step J s e)
    (iff : ∀ s, ∀ e ∈ es, J s → I s → (After step I s e ↔ C s e))
    (initJ : J s) (init : I s) : Always step I s es ↔ Steps step C s es := by
  rw [Always, and_iff_right init]
  induction es generalizing s with
  | nil => exact Iff.rfl
  | cons e es ih =>
    have rest (t : σ) (ht : t ∈ step s e) (it : I t) :
        Steps step (After step I) t es ↔ Steps step C t es :=
      ih (fun s e he => side s e (.tail _ he)) (fun s e he => iff s e (.tail _ he))
        (side s e (.head _) initJ t ht) it
    constructor
    · rintro ⟨a, h⟩
      exact ⟨(iff s e (.head _) initJ init).1 a, fun t ht => (rest t ht (a t ht)).1 (h t ht)⟩
    · rintro ⟨c, h⟩
      have a := (iff s e (.head _) initJ init).2 c
      exact ⟨a, fun t ht => (rest t ht (a t ht)).2 (h t ht)⟩

/-- The exact safety rule for a condition on all events. -/
theorem always_iff_steps_of {I J : σ → Prop} {C : σ → ε → Prop}
    (side : ∀ s e, J s → After step J s e)
    (iff : ∀ s e, J s → I s → (After step I s e ↔ C s e))
    {s : σ} {es : List ε} (initJ : J s) (init : I s) : Always step I s es ↔ Steps step C s es :=
  always_iff_steps_on (fun s e _ => side s e) (fun s e _ => iff s e) initJ init

/-- The exact safety rule for an invariant that needs no other. -/
theorem always_iff_steps {I : σ → Prop} {C : σ → ε → Prop}
    (iff : ∀ s e, I s → (After step I s e ↔ C s e))
    {s : σ} {es : List ε} (init : I s) : Always step I s es ↔ Steps step C s es :=
  always_iff_steps_of (J := fun _ => True) (fun _ _ _ _ _ => trivial) (fun s e _ => iff s e)
    trivial init

/-- A condition on the events alone holds at every step of a run of such events. -/
lemma Steps.of_events {E : ε → Prop} {s : σ} {es : List ε} (h : ∀ e ∈ es, E e) :
    Steps step (fun _ e => E e) s es := by
  induction es generalizing s with
  | nil => exact trivial
  | cons e es ih => exact ⟨h e (.head _), fun _ _ => ih fun e he => h e (.tail _ he)⟩

/-- A run returns just when each of its steps meets the condition under which it does not trap. -/
theorem exec_isSome_iff_steps {C : σ → ε → Prop} {J : σ → Prop}
    (side : ∀ s e, J s → After step J s e)
    (iff : ∀ s e, J s → ((step s e).isSome ↔ C s e)) {s : σ} {es : List ε} (init : J s) :
    (exec step s es).isSome ↔ Steps step C s es := by
  induction es generalizing s with
  | nil => simp [Steps]
  | cons e es ih =>
    rw [Steps, ← iff s e init, exec_cons]
    cases h : step s e with
    | none => simp
    | some t => simpa [h] using ih (side s e init t h)

/-- What every state of an invariant offers holds at every step of its runs. -/
lemma Always.steps {P : σ → Prop} {D : σ → ε → Prop} (use : ∀ s e, P s → D s e) {s : σ}
    {es : List ε} (h : Always step P s es) : Steps step D s es :=
  h.2.inv (fun _ _ _ a => a) (fun s e p _ => use s e p) h.1

/-- Along a run of an invariant one may weaken the predicate. -/
lemma Always.mono {P Q : σ → Prop} (sub : ∀ s, P s → Q s) {s : σ} {es : List ε}
    (h : Always step P s es) : Always step Q s es :=
  ⟨sub s h.1, h.2.mono fun _ _ a t ht => sub t (a t ht)⟩

/-- What always holds along a run holds in its last state. -/
lemma Always.last {P : σ → Prop} {s t : σ} {es : List ε}
    (h : Always step P s es) (run : exec step s es = some t) : P t := by
  obtain ⟨p, h⟩ := h
  induction es generalizing s with
  | nil => cases run; exact p
  | cons e es ih =>
    obtain ⟨u, hu, run⟩ := Option.bind_eq_some_iff.1 run
    exact ih run (h.1 u hu) (h.2 u hu)

/-- Executing events that keep an invariant keeps it. -/
lemma exec_inv {I : σ → Prop} {s t : σ} {es : List ε}
    (keep : ∀ s, ∀ e ∈ es, I s → After step I s e) (init : I s) (h : exec step s es = some t) :
    I t := by
  induction es generalizing s with
  | nil => cases h; exact init
  | cons e es ih =>
    obtain ⟨u, hu, h⟩ := Option.bind_eq_some_iff.1 h
    exact ih (fun s e he => keep s e (.tail _ he)) (keep s e (.head _) init u hu) h

end Run
