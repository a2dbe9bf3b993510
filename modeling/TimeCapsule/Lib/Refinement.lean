import TimeCapsule.Lib.Run

/-!
# Refinement maps

A machine refines another one if a function on its states turns each of its steps into a run of the
other machine. `trace` names the events of that run. The steps may be assumed to meet a condition,
and the states an invariant that such steps keep. `Refines.run` is the induction over whole runs;
`Refines.comp` composes two refinements, so that a component can be verified level by level.
-/

namespace Run

variable {σ σ' σ'' ε ε' ε'' : Type*} {step : σ → ε → Option σ} {step' : σ' → ε' → Option σ'}
  {step'' : σ'' → ε'' → Option σ''}

/-- The abstract events of a run. -/
def traces (step : σ → ε → Option σ) (trace : σ → ε → List ε') : σ → List ε → List ε'
  | _, [] => []
  | s, e :: es => trace s e ++ (step s e).elim [] (traces step trace · es)

/-- Steps from states of `I` that meet `C` keep `I`, and are runs of `step'` under `abs`. -/
structure Refines (step : σ → ε → Option σ) (step' : σ' → ε' → Option σ') (abs : σ → σ')
    (trace : σ → ε → List ε') (I : σ → Prop) (C : σ → ε → Prop) : Prop where
  keep : ∀ s e, I s → C s e → After step I s e
  sim : ∀ s e, I s → C s e → ∀ t ∈ step s e, exec step' (abs s) (trace s e) = some (abs t)

section Refines
variable {abs : σ → σ'} {trace : σ → ε → List ε'} {I : σ → Prop} {C : σ → ε → Prop}
  {abs' : σ' → σ''} {trace' : σ' → ε' → List ε''} {I' : σ' → Prop} {C' : σ' → ε' → Prop}

/-- A run that meets the condition keeps the invariant. -/
lemma Refines.keeps (r : Refines step step' abs trace I C) {s t : σ} {es : List ε} (init : I s)
    (cond : Steps step C s es) (h : exec step s es = some t) : I t :=
  (always_of_steps r.keep init cond).last h

/-- A run that meets the condition is a run of the abstract machine. -/
theorem Refines.run (r : Refines step step' abs trace I C) {s t : σ} {es : List ε} (init : I s)
    (cond : Steps step C s es) (h : exec step s es = some t) :
    exec step' (abs s) (traces step trace s es) = some (abs t) := by
  induction es generalizing s with
  | nil =>
    cases h
    rfl
  | cons e es ih =>
    obtain ⟨u, hu, h⟩ := Option.bind_eq_some_iff.1 h
    have one := r.sim s e init cond.1 u hu
    have rest := ih (r.keep s e init cond.1 u hu) (cond.2 u hu) h
    rw [traces, hu, Option.elim_some, exec_append, one, Option.bind_some, rest]

/-- Refinements compose, if the runs of the lower one meet the condition of the upper one. -/
theorem Refines.comp (r : Refines step step' abs trace I C)
    (r' : Refines step' step'' abs' trace' I' C')
    (cond : ∀ s e, I s → C s e → Steps step' C' (abs s) (trace s e)) :
    Refines step step'' (abs' ∘ abs) (fun s e => traces step' trace' (abs s) (trace s e))
      (fun s => I s ∧ I' (abs s)) C where
  keep s e inv c t ht :=
    ⟨r.keep s e inv.1 c t ht, r'.keeps inv.2 (cond s e inv.1 c) (r.sim s e inv.1 c t ht)⟩
  sim s e inv c t ht := r'.run inv.2 (cond s e inv.1 c) (r.sim s e inv.1 c t ht)

end Refines

end Run
