import TimeCapsule.Lib.Run

/-!
# Outstanding requests

A client's view of an asynchronous channel: the requests it has sent and that its handlers have not
yet been run for, each with the answer that the other side has produced meanwhile. `Traffic` are the
two things that happen to such a channel from outside, in any order: the other side answers a
request, and the client's run loop picks an answered one up. `Wire.step` performs them;
`Wire.step_moves` inverts it into the relation `Moves`, on which the membership lemmas do their
case analysis.
-/

/-- A request that was sent, with its answer once there is one. -/
structure Exchange (ρ α : Type*) where
  request : ρ
  answer : Option α
deriving DecidableEq, Repr

/-- The outstanding exchanges of a client, oldest first. -/
abbrev Wire (ρ α : Type*) := List (Exchange ρ α)

/-- What happens to outstanding exchanges: number `i` is answered, or its answer is picked up. -/
inductive Traffic (α : Type*) where
  | reply (i : Nat) (a : α)
  | deliver (i : Nat)
deriving DecidableEq, Repr

namespace Wire

variable {ρ α : Type*}

/-- Send a request. -/
def send (w : Wire ρ α) (r : ρ) : Wire ρ α := w ++ [⟨r, none⟩]

/-- Perform one piece of traffic; the second component is the exchange that was picked up. -/
def step (w : Wire ρ α) : Traffic α → Wire ρ α × Option (ρ × α)
  | .reply i a =>
    match w[i]? with
    | some ⟨r, none⟩ => (w.set i ⟨r, some a⟩, none)
    | _ => (w, none)
  | .deliver i =>
    match w[i]? with
    | some ⟨r, some a⟩ => (w.eraseIdx i, some (r, a))
    | _ => (w, none)

/-- The requests that a later wire carries beyond the length of an earlier one. -/
def sent (w w' : Wire ρ α) : List ρ := (w'.drop w.length).map (·.request)

/-- The exchange that gets its answer by a piece of traffic. -/
def answered (w : Wire ρ α) : Traffic α → Option (ρ × α)
  | .reply i a =>
    match w[i]? with
    | some ⟨r, none⟩ => some (r, a)
    | _ => none
  | .deliver _ => none

/-- The effect of one piece of traffic, as a relation. -/
inductive Moves : Wire ρ α → Traffic α → Wire ρ α → Option (ρ × α) → Prop where
  | reply {l1 l2 : Wire ρ α} {r a} :
    Moves (l1 ++ ⟨r, none⟩ :: l2) (.reply l1.length a) (l1 ++ ⟨r, some a⟩ :: l2) none
  | deliver {l1 l2 : Wire ρ α} {r a} :
    Moves (l1 ++ ⟨r, some a⟩ :: l2) (.deliver l1.length) (l1 ++ l2) (some (r, a))
  | idle {w : Wire ρ α} {e} :
    Moves w e w none

/-- A list splits at each of its indices. -/
lemma split_at {β : Type*} {l : List β} {i : Nat} {x : β} (h : l[i]? = some x) :
    ∃ l1 l2, l = l1 ++ x :: l2 ∧ l1.length = i := by
  obtain ⟨hi, rfl⟩ := List.getElem?_eq_some_iff.1 h
  exact ⟨l.take i, l.drop (i + 1), by simp, by simp; omega⟩

/-- Names for the wire after a piece of traffic and for what was picked up. -/
lemma exists_step (w : Wire ρ α) (e : Traffic α) : ∃ w' d, w.step e = (w', d) := ⟨_, _, rfl⟩

/-- Inversion of `step`. -/
lemma step_moves (w : Wire ρ α) (e : Traffic α) : Moves w e (w.step e).1 (w.step e).2 := by
  cases e with
  | reply i a =>
    simp only [step]
    split
    · next r h =>
      obtain ⟨l1, l2, rfl, rfl⟩ := split_at h
      simpa using Moves.reply
    · exact .idle
  | deliver i =>
    simp only [step]
    split
    · next r a h =>
      obtain ⟨l1, l2, rfl, rfl⟩ := split_at h
      simpa [List.eraseIdx_append_of_length_le] using Moves.deliver
    · exact .idle

lemma moves_of_step {w w' : Wire ρ α} {e : Traffic α} {d : Option (ρ × α)}
    (h : w.step e = (w', d)) : Moves w e w' d := by
  have moves := w.step_moves e
  rwa [h] at moves

section Moves
variable {w w' : Wire ρ α} {e : Traffic α} {d : Option (ρ × α)}

/-- An exchange that remains was there before, or has just been answered. -/
lemma Moves.mem (m : Moves w e w' d) {x : Exchange ρ α} (hx : x ∈ w') :
    x ∈ w ∨ ∃ i a r, e = .reply i a ∧ w[i]? = some ⟨r, none⟩ ∧ x = ⟨r, some a⟩ := by
  cases m with
  | @reply l1 l2 r a =>
    simp only [List.mem_append, List.mem_cons] at hx ⊢
    rcases hx with hx | rfl | hx
    · exact .inl (.inl hx)
    · exact .inr ⟨_, a, r, rfl, by simp, rfl⟩
    · exact .inl (.inr (.inr hx))
  | deliver =>
    simp only [List.mem_append, List.mem_cons] at hx ⊢
    exact .inl (hx.imp id .inr)
  | idle => exact .inl hx

/-- Traffic adds no request. -/
lemma Moves.request (m : Moves w e w' d) {x : Exchange ρ α} (hx : x ∈ w') :
    ∃ y ∈ w, y.request = x.request := by
  rcases m.mem hx with hx | ⟨_, _, _, _, hi, rfl⟩
  · exact ⟨x, hx, rfl⟩
  · exact ⟨_, List.mem_of_getElem? hi, rfl⟩

/-- Traffic makes a wire no longer. -/
lemma Moves.length_le (m : Moves w e w' d) : w'.length ≤ w.length := by
  cases m with
  | reply => simp
  | deliver => simp
  | idle => exact le_rfl

/-- If all answers are `a`, then `a` is handed over, and all remaining answers are `a`. -/
lemma Moves.answers {a : α} (m : Moves w e w' d) (answered : ∀ x ∈ w, ∀ b ∈ x.answer, b = a)
    (reply : ∀ i b, e = .reply i b → b = a) :
    (∀ x ∈ w', ∀ b ∈ x.answer, b = a) ∧ ∀ r b, d = some (r, b) → b = a := by
  constructor
  · intro x hx b hb
    rcases m.mem hx with hx | ⟨i, c, r, he, _, rfl⟩
    · exact answered x hx b hb
    · cases hb
      exact reply i _ he
  · intro r b hd
    cases m with
    | deliver =>
      cases hd
      exact answered ⟨r, some b⟩ (by simp) b rfl
    | reply => cases hd
    | idle => cases hd

/-- An answer on the wire was there before, or has just been given. -/
lemma mem_step_answered {w : Wire ρ α} {e : Traffic α} {x : Exchange ρ α} (hx : x ∈ (w.step e).1)
    {a : α} (ha : x.answer = some a) : x ∈ w ∨ w.answered e = some (x.request, a) := by
  rcases (w.step_moves e).mem hx with hx | ⟨i, a', r, rfl, hi, rfl⟩
  · exact .inl hx
  · cases ha
    exact .inr (by simp [answered, hi])

/-- No answer is given while one is picked up. -/
lemma answered_of_delivered {w : Wire ρ α} {e : Traffic α} {d : ρ × α}
    (hd : (w.step e).2 = some d) : w.answered e = none := by
  cases e with
  | deliver => rfl
  | reply i a =>
    simp only [step] at hd
    split at hd <;> cases hd

/-- The exchange that was picked up was outstanding and answered. -/
lemma Moves.delivered (m : Moves w e w' d) {r : ρ} {a : α} (hd : d = some (r, a)) :
    ⟨r, some a⟩ ∈ w := by
  cases m with
  | deliver => cases hd; simp
  | reply => cases hd
  | idle => cases hd

/-- An exchange stays, unless it is the one that is answered or picked up. -/
lemma Moves.stays (m : Moves w e w' d) {x : Exchange ρ α} (hx : x ∈ w) :
    x ∈ w' ∨ (∃ i a, e = .reply i a ∧ x.answer = none ∧ w[i]? = some x ∧
      ⟨x.request, some a⟩ ∈ w') ∨ ∃ a, x.answer = some a ∧ d = some (x.request, a) := by
  cases m with
  | @reply l1 l2 r a =>
    simp only [List.mem_append, List.mem_cons] at hx ⊢
    rcases hx with hx | rfl | hx
    · exact .inl (.inl hx)
    · exact .inr (.inl ⟨_, a, rfl, rfl, by simp, by simp⟩)
    · exact .inl (.inr (.inr hx))
  | @deliver l1 l2 r a =>
    simp only [List.mem_append, List.mem_cons] at hx ⊢
    rcases hx with hx | rfl | hx
    · exact .inl (.inl hx)
    · exact .inr (.inr ⟨a, rfl, rfl⟩)
    · exact .inl (.inr hx)
  | idle => exact .inl hx

/-- A property that answers do not spoil keeps an exchange outstanding until it is picked up. -/
lemma Moves.keeps {Q : Exchange ρ α → Prop} (m : Moves w e w' d) {x : Exchange ρ α} (hx : x ∈ w)
    (hq : Q x)
    (reply : ∀ i a, e = .reply i a → w[i]? = some x → x.answer = none → Q ⟨x.request, some a⟩) :
    (∃ y ∈ w', y.request = x.request ∧ Q y) ∨ ∃ a, x.answer = some a ∧ d = some (x.request, a) := by
  rcases m.stays hx with hx | ⟨i, a, he, none, hi, hy⟩ | delivered
  · exact .inl ⟨x, hx, rfl, hq⟩
  · exact .inl ⟨_, hy, rfl, reply i a he hi none⟩
  · exact .inr delivered

end Moves

/-- A request that has just been sent has no answer. -/
lemma unanswered {r : ρ} {P : α → Prop} : ∀ a ∈ (⟨r, none⟩ : Exchange ρ α).answer, P a :=
  fun a h => absurd h (Option.not_mem_none a)

/-- Nothing happens to no exchange. -/
lemma step_nil (e : Traffic α) : step ([] : Wire ρ α) e = ([], none) := by
  cases e <;> rfl

/-- Nothing happens to an exchange that is not there. -/
lemma step_length (w : Wire ρ α) (a : α) :
    w.step (.reply w.length a) = (w, none) ∧ w.step (.deliver w.length) = (w, none) := by
  simp [step]

/-- The request that was sent last is answered, and then picked up with its answer. -/
lemma step_send (w : Wire ρ α) (r : ρ) (a : α) :
    (w.send r).step (.reply w.length a) = (w ++ [⟨r, some a⟩], none) ∧
      step (w ++ [⟨r, some a⟩]) (.deliver w.length) = (w, some (r, a)) := by
  simp [step, send, List.eraseIdx_append_of_length_le]

/-- Nothing has been sent on a wire since itself. -/
@[simp]
lemma sent_self (w : Wire ρ α) : w.sent w = [] := by
  simp [sent]

/-- What has been sent after a request was sent is that request. -/
@[simp]
lemma sent_send (w : Wire ρ α) (r : ρ) : w.sent (w.send r) = [r] := by
  simp [sent, send]

/-- What has been sent after more requests were sent is these requests. -/
lemma sent_append (w : Wire ρ α) (rs : List ρ) :
    w.sent (w ++ rs.map fun r => ⟨r, none⟩) = rs := by
  simp [sent, Function.comp_def]

@[simp]
lemma mem_send {w : Wire ρ α} {r : ρ} {x : Exchange ρ α} :
    x ∈ w.send r ↔ x ∈ w ∨ x = ⟨r, none⟩ := by
  simp [send]

end Wire
