import TimeCapsule.Lib.EffSort

/-!
# What a comparison answers

A sort asks its comparison again and again, and relies on answers that fit together as those of a
strict weak order do. `askAll` is any series of questions, in the order in which they are asked;
`StrictWeak` are the laws, for the answers that were given. A comparison that looks at the state may
answer the same question differently, and then break them.
-/

namespace EffSort

variable {π α : Type} {lt : α → α → StateT π Option Bool}

/-- Ask for the order of pairs of entries, one after the other. -/
def askAll (lt : α → α → StateT π Option Bool) :
    List (α × α) → StateT π Option (List (α × α × Bool))
  | [] => pure []
  | (a, b) :: asked => do
    let answer ← lt a b
    let answers ← askAll lt asked
    pure ((a, b, answer) :: answers)

/-- The answers are irreflexive, asymmetric and transitive, and so is what they leave undecided. -/
structure StrictWeak (answers : List (α × α × Bool)) : Prop where
  irrefl : ∀ a, (a, a, true) ∉ answers
  asymm : ∀ a b, (a, b, true) ∈ answers → (b, a, true) ∉ answers
  trans : ∀ a b c, (a, b, true) ∈ answers → (b, c, true) ∈ answers → (a, c, false) ∉ answers
  incomparable : ∀ a b c, (a, b, false) ∈ answers → (b, a, false) ∈ answers →
    (b, c, false) ∈ answers → (c, b, false) ∈ answers → (a, c, true) ∉ answers

variable {asked asked' : List (α × α)} {answers answers' : List (α × α × Bool)} {p q q' : π}

lemma askAll_nil (p : π) : askAll lt [] p = some ([], p) := rfl

/-- An answer to more questions. -/
lemma askAll_cons {a b : α} {answer : Bool} (h : lt a b p = some (answer, q))
    (rest : askAll lt asked q = some (answers, q')) :
    askAll lt ((a, b) :: asked) p = some ((a, b, answer) :: answers, q') :=
  bind_eq_some.2 ⟨_, _, h, bind_eq_some.2 ⟨_, _, rest, rfl⟩⟩

/-- Two series of questions, one after the other. -/
lemma askAll_append (first : askAll lt asked p = some (answers, q))
    (second : askAll lt asked' q = some (answers', q')) :
    askAll lt (asked ++ asked') p = some (answers ++ answers', q') := by
  induction asked generalizing answers p with
  | nil =>
    cases pure_eq_some.1 first
    exact second
  | cons x xs ih =>
    obtain ⟨answer, p1, h, rest⟩ := bind_eq_some.1 first
    obtain ⟨_, _, rest, done⟩ := bind_eq_some.1 rest
    cases pure_eq_some.1 done
    exact askAll_cons h (ih rest)

/-- What every comparison of entries in `K` keeps of the state and makes true of its answer holds of
all answers. -/
lemma askAll_inv {J : π → Prop} {K : α → Prop} {A : α → α → Bool → Prop}
    (each : ∀ p a b v q, J p → K a → K b → lt a b p = some (v, q) → J q ∧ A a b v) (hp : J p)
    (entries : ∀ x ∈ asked, K x.1 ∧ K x.2) (h : askAll lt asked p = some (answers, q)) :
    ∀ a b v, (a, b, v) ∈ answers → A a b v := by
  induction asked generalizing answers p with
  | nil =>
    cases pure_eq_some.1 h
    exact fun a b v mem => absurd mem List.not_mem_nil
  | cons x xs ih =>
    obtain ⟨answer, p1, hx, h⟩ := bind_eq_some.1 h
    obtain ⟨rest, q1, hrest, h⟩ := bind_eq_some.1 h
    cases pure_eq_some.1 h
    obtain ⟨entry, entries⟩ := List.forall_mem_cons.1 entries
    obtain ⟨hp1, first⟩ := each p x.1 x.2 answer p1 hp entry.1 entry.2 hx
    intro a b v mem
    apply (List.mem_cons.1 mem).elim
    · intro e
      cases e
      exact first
    · exact ih hp1 entries hrest a b v

/-- Answers that follow a key into a linear order are those of a strict weak order. -/
theorem strictWeak_of_key {κ : Type} [LinearOrder κ] (key : α → κ)
    (follow : ∀ a b v, (a, b, v) ∈ answers → (v = true ↔ key a < key b)) : StrictWeak answers := by
  have less {a b : α} (h : (a, b, true) ∈ answers) : key a < key b := (follow a b true h).1 rfl
  have notLess {a b : α} (h : (a, b, false) ∈ answers) : key b ≤ key a :=
    not_lt.1 fun lt => Bool.false_ne_true ((follow a b false h).2 lt)
  constructor
  · exact fun a h => lt_irrefl _ (less h)
  · exact fun a b h h' => lt_asymm (less h) (less h')
  · exact fun a b c h h' h'' => (notLess h'').not_gt ((less h).trans (less h'))
  · intro a b c ab _ bc _ h
    exact ((notLess bc).trans (notLess ab)).not_gt (less h)

end EffSort
