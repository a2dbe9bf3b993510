import TimeCapsule.Home.TimeCapsulePreviewModel
import TimeCapsule.Lib.Comparisons

/-!
# The order of deadlines

The comparison of a sort by deadline reads the clock for each entry whose deadline does not parse,
so what it answers depends on when it is asked. `compareDeadlines_eq` says what it answers after a
number of readings, and `deadline_order_iff` on which lists and under which clocks its answers are
those of an order.
-/

namespace TimeCapsule.Home
open Foundation

/-- The process after a number of readings of the clock, with the settings that deadlines depend
on. -/
structure Passed (p : Process) (n : Nat) (q : Process) : Prop where
  date : q.date = p.date
  timeZone : q.dateFormatter.timeZone = p.dateFormatter.timeZone
  clock : ∀ m, q.clock m = p.clock (n + m)

/-- How often the deadline of a capsule reads the clock. -/
def readings (p : Process) (c : TimeCapsulePreview) : Nat := if deadlineKey p c = ⊥ then 1 else 0

/-- The deadline of a capsule after a number of readings. -/
def deadlineAt (p : Process) (c : TimeCapsulePreview) (n : Nat) : Date :=
  (deadlineKey p c).unbotD (p.clock n)

/-- The two sort actions by deadline. -/
def SortAction.ByDeadline (action : SortAction) : Prop :=
  action = .deadlineAsc ∨ action = .deadlineDesc

/-- Whatever a sort by deadline asks about the entries of a list, the answers fit together. -/
def DeadlineOrder (p : Process) (l : List TimeCapsulePreview) : Prop :=
  ∀ action : SortAction, action.ByDeadline → ∀ asked, (∀ x ∈ asked, x.1 ∈ l ∧ x.2 ∈ l) →
    ∀ answers q, EffSort.askAll action.lt asked p = some (answers, q) → EffSort.StrictWeak answers

/-- Every deadline parses, the clock stands still, or no deadline parses and the clock stands still
within each comparison. -/
def DeadlinesSettled (p : Process) (l : List TimeCapsulePreview) : Prop :=
  (∀ c ∈ l, deadlineKey p c ≠ ⊥) ∨ (∀ n, p.clock n = p.clock 0) ∨
    (∀ c ∈ l, deadlineKey p c = ⊥) ∧ ∀ k, p.clock (2 * k + 1) = p.clock (2 * k)

section Passed
variable {p q r : Process} {n m : Nat} {c : TimeCapsulePreview}

lemma Passed.refl (p : Process) : Passed p 0 p := ⟨rfl, rfl, fun m => by rw [Nat.zero_add]⟩

lemma Passed.trans (h1 : Passed p n q) (h2 : Passed q m r) : Passed p (n + m) r :=
  ⟨h2.date.trans h1.date, h2.timeZone.trans h1.timeZone, fun k => by
    rw [h2.clock, h1.clock, Nat.add_assoc]⟩

/-- Time does not change what a deadline parses to. -/
lemma Passed.deadlineKey (h : Passed p n q) : deadlineKey q c = deadlineKey p c := by
  simp only [Home.deadlineKey, h.date, h.timeZone]

lemma Passed.readings (h : Passed p n q) : readings q c = readings p c := by
  simp only [Home.readings, h.deadlineKey]

lemma Passed.deadlineAt (h : Passed p n q) : deadlineAt q c m = deadlineAt p c (n + m) := by
  simp only [Home.deadlineAt, h.deadlineKey, h.clock]

/-- A deadline that does not parse reads the clock once, and is what it reads. -/
lemma readings_of_bot (none : Home.deadlineKey p c = ⊥) : Home.readings p c = 1 := if_pos none

lemma deadlineAt_of_bot (none : Home.deadlineKey p c = ⊥) : Home.deadlineAt p c n = p.clock n := by
  rw [Home.deadlineAt, none]
  rfl

/-- What a deadline is now, and that it reads the clock if it does not parse. -/
lemma deadlineDate_eq (p : Process) (c : TimeCapsulePreview) :
    ∃ q, c.deadlineDate p = some (deadlineAt p c 0, q) ∧ Passed p (readings p c) q := by
  unfold TimeCapsulePreview.deadlineDate
  rw [EffSort.bind_of_eq_some (q := { p with dateFormatter.dateFormat := "yyyy-MM-dd'T'HH:mm:ss" })
    (a := p.date ⟨"yyyy-MM-dd'T'HH:mm:ss", p.dateFormatter.timeZone⟩ c.deadline) rfl]
  cases hd : p.date ⟨"yyyy-MM-dd'T'HH:mm:ss", p.dateFormatter.timeZone⟩ c.deadline with
  | none =>
    have key : Home.deadlineKey p c = ⊥ := by simp only [Home.deadlineKey, hd]
    rw [Home.deadlineAt, Home.readings, if_pos key, key]
    exact ⟨_, rfl, rfl, rfl, fun m => congrArg p.clock (Nat.add_comm m 1)⟩
  | some date =>
    have key : Home.deadlineKey p c = date := by simp only [Home.deadlineKey, hd]
    rw [Home.deadlineAt, Home.readings, key, if_neg WithBot.coe_ne_bot]
    exact ⟨_, rfl, rfl, rfl, fun m => congrArg p.clock (Nat.zero_add m).symm⟩

end Passed

section Comparison
variable {p q : Process} {n : Nat} {l : List TimeCapsulePreview}

/-- A comparison of deadlines compares what they are one after the other. -/
lemma compareDeadlines_eq (f : Date → Date → Bool) (p : Process) (a b : TimeCapsulePreview) :
    ∃ q, (do pure (f (← a.deadlineDate) (← b.deadlineDate)) : Main Bool) p =
        some (f (deadlineAt p a 0) (deadlineAt p b (readings p a)), q) ∧
      Passed p (readings p a + readings p b) q := by
  obtain ⟨q, ha, passed⟩ := deadlineDate_eq p a
  obtain ⟨r, hb, passed'⟩ := deadlineDate_eq q b
  rw [passed.deadlineAt, Nat.add_zero] at hb
  have later := passed.trans passed'
  rw [passed.readings] at later
  exact ⟨r, EffSort.bind_eq_some.2 ⟨_, q, ha, EffSort.bind_eq_some.2 ⟨_, r, hb, rfl⟩⟩, later⟩

/-! ## Settled deadlines -/

/-- A deadline that parses stays what it is, and so does any other one while the clock stands
still. -/
lemma DeadlinesSettled.fixed (settled : DeadlinesSettled p l) :
    (∀ c ∈ l, ∀ n, deadlineAt p c n = deadlineAt p c 0) ∨
      (∀ c ∈ l, deadlineKey p c = ⊥) ∧ ∀ k, p.clock (2 * k + 1) = p.clock (2 * k) := by
  rcases settled with parses | still | settled
  · left
    intro c hc n
    obtain ⟨d, hd⟩ := WithBot.ne_bot_iff_exists.1 (parses c hc)
    rw [deadlineAt, deadlineAt, ← hd]
    rfl
  · left
    intro c _ n
    rw [deadlineAt, deadlineAt, still n]
  · exact .inr settled

/-- If the deadlines are settled, a comparison by a key answers by an order. -/
lemma strictWeak_of_settled {κ : Type} [LinearOrder κ] (key : Date → κ) {f : Date → Date → Bool}
    (hf : ∀ x y, f x y = true ↔ key x < key y) (settled : DeadlinesSettled p l)
    {asked : List (TimeCapsulePreview × TimeCapsulePreview)}
    (entries : ∀ x ∈ asked, x.1 ∈ l ∧ x.2 ∈ l) {answers}
    (h : EffSort.askAll (fun a b => do pure (f (← a.deadlineDate) (← b.deadlineDate))) asked p =
      some (answers, q)) : EffSort.StrictWeak answers := by
  rcases settled.fixed with fixed | ⟨none, still⟩
  · apply EffSort.strictWeak_of_key fun c => key (deadlineAt p c 0)
    refine EffSort.askAll_inv (J := fun q => ∃ n, Passed p n q) (K := (· ∈ l)) ?_
      ⟨0, .refl p⟩ entries h
    rintro q a b v q' ⟨n, passed⟩ ha hb hv
    obtain ⟨r, compared, later⟩ := compareDeadlines_eq f q a b
    cases hv.symm.trans compared
    refine ⟨⟨_, passed.trans later⟩, ?_⟩
    rw [hf, passed.deadlineAt, passed.deadlineAt, fixed a ha, fixed b hb]
  · -- every comparison reads the clock twice, and nothing is less than anything
    have once (c : TimeCapsulePreview) (hc : c ∈ l) := readings_of_bot (none c hc)
    apply EffSort.strictWeak_of_key fun _ => 0
    refine EffSort.askAll_inv (J := fun q => ∃ k, Passed p (2 * k) q) (K := (· ∈ l)) ?_
      ⟨0, .refl p⟩ entries h
    rintro q a b v q' ⟨k, passed⟩ ha hb hv
    obtain ⟨r, compared, later⟩ := compareDeadlines_eq f q a b
    cases hv.symm.trans compared
    rw [passed.readings, passed.readings, once a ha, once b hb] at later
    refine ⟨⟨k + 1, passed.trans later⟩, ?_⟩
    rw [hf, passed.deadlineAt, passed.deadlineAt, passed.readings, once a ha,
      deadlineAt_of_bot (none a ha), deadlineAt_of_bot (none b hb), Nat.add_zero, still k]
    exact iff_of_false (lt_irrefl _) (lt_irrefl _)

/-! ## Deadlines that move -/

/-- Asking the same question again and again lets the clock move on. -/
lemma askAll_replicate (f : Date → Date → Bool) (p : Process) (a b : TimeCapsulePreview) (n : Nat) :
    ∃ answers q, EffSort.askAll (fun a b => do pure (f (← a.deadlineDate) (← b.deadlineDate)))
        (List.replicate n (a, b)) p = some (answers, q) ∧
      Passed p (n * (readings p a + readings p b)) q := by
  induction n generalizing p with
  | zero => exact ⟨[], p, rfl, by simpa using Passed.refl p⟩
  | succ n ih =>
    obtain ⟨q, compared, passed⟩ := compareDeadlines_eq f p a b
    obtain ⟨answers, r, asked, later⟩ := ih q
    refine ⟨_, r, EffSort.askAll_cons compared asked, ?_⟩
    rw [passed.readings, passed.readings] at later
    rw [Nat.succ_mul, Nat.add_comm]
    exact passed.trans later

/-- Where a question about an entry whose deadline does not parse may be asked next, the clock
stands still between its two readings. -/
lemma DeadlineOrder.still (order : DeadlineOrder p l) (advances : Monotone p.clock)
    {a b c : TimeCapsulePreview} (ha : a ∈ l) (hb : b ∈ l) (hc : c ∈ l) (none : deadlineKey p c = ⊥)
    (n : Nat) : p.clock (n * (readings p a + readings p b) + 1) =
      p.clock (n * (readings p a + readings p b)) := by
  obtain ⟨answers, q, asked, passed⟩ := askAll_replicate (fun x y => decide (x < y)) p a b n
  obtain ⟨r, compared, _⟩ := compareDeadlines_eq (fun x y => decide (x < y)) q c c
  have all := EffSort.askAll_append asked (EffSort.askAll_cons compared (EffSort.askAll_nil r))
  have entries : ∀ x ∈ List.replicate n (a, b) ++ [(c, c)], x.1 ∈ l ∧ x.2 ∈ l := by
    intro x hx
    rcases List.mem_append.1 hx with hx | hx
    · rw [List.eq_of_mem_replicate hx]
      exact ⟨ha, hb⟩
    · rw [List.mem_singleton.1 hx]
      exact ⟨hc, hc⟩
  have irrefl := (order .deadlineAsc (.inl rfl) _ entries _ r all).irrefl c
  rw [passed.deadlineAt, passed.deadlineAt, passed.readings, readings_of_bot none,
    deadlineAt_of_bot none, deadlineAt_of_bot none, Nat.add_zero] at irrefl
  apply le_antisymm _ (advances (Nat.le_succ _))
  apply not_lt.1
  intro less
  exact irrefl (List.mem_append_right _ (by simp [less]))

/-- Under a clock that does not go back, the answers of the sorts by deadline fit together just when
the deadlines are settled. -/
theorem deadline_order_iff (p : Process) (advances : Monotone p.clock)
    (l : List TimeCapsulePreview) : DeadlineOrder p l ↔ DeadlinesSettled p l := by
  constructor
  · intro order
    by_cases parses : ∀ c ∈ l, deadlineKey p c ≠ ⊥
    · exact .inl parses
    · push Not at parses
      obtain ⟨c, hc, none⟩ := parses
      have once := readings_of_bot none
      by_cases others : ∀ d ∈ l, deadlineKey p d = ⊥
      · refine .inr (.inr ⟨others, fun k => ?_⟩)
        have still := order.still advances hc hc hc none k
        rwa [once, Nat.mul_comm] at still
      · push Not at others
        obtain ⟨d, hd, some⟩ := others
        have never : readings p d = 0 := if_neg some
        refine .inr (.inl fun n => ?_)
        induction n with
        | zero => rfl
        | succ n ih =>
          have still := order.still advances hc hd hc none n
          rw [once, never, Nat.mul_one] at still
          exact still.trans ih
  · rintro settled action (rfl | rfl) asked entries answers q h
    · exact strictWeak_of_settled id (fun x y => decide_eq_true_iff) settled entries h
    · exact strictWeak_of_settled OrderDual.toDual (fun x y => decide_eq_true_iff) settled entries h

/-- A capsule with a deadline and one without a time of day, whose deadline is the current date,
under a clock that has stopped. -/
theorem deadline_order_stopped :
    DeadlineOrder
      ⟨fun _ string => if string = "2024-12-24T00:00:00" then some 1734966000 else none, ⟨"", ""⟩,
        fun _ => 1734000000⟩
      [⟨1, 1, false, "t", "가족", "", "", "2024-12-24T00:00:00"⟩,
        ⟨2, 1, false, "u", "기억", "", "", "2024-12-24"⟩] :=
  (deadline_order_iff _ monotone_const _).2 (.inr (.inl fun _ => rfl))

/-- Two capsules with dates only, while the clock goes on: each one is before the other. -/
theorem deadline_no_order :
    ¬ ∀ (p : Process) (l : List TimeCapsulePreview), Monotone p.clock → DeadlineOrder p l := by
  intro h
  have order := h ⟨fun _ _ => none, ⟨"", ""⟩, fun n => n⟩
    [⟨1, 1, false, "t", "가족", "", "", "2024-12-24"⟩, ⟨2, 1, false, "u", "기억", "", "", "2024-12-25"⟩]
    Nat.mono_cast .deadlineAsc (.inl rfl)
    [(⟨1, 1, false, "t", "가족", "", "", "2024-12-24"⟩, ⟨2, 1, false, "u", "기억", "", "", "2024-12-25"⟩),
      (⟨2, 1, false, "u", "기억", "", "", "2024-12-25"⟩, ⟨1, 1, false, "t", "가족", "", "", "2024-12-24"⟩)]
    (by decide) _ _ rfl
  exact order.asymm _ _ (.head _) (.tail _ (.head _))

end Comparison

end TimeCapsule.Home
