import TimeCapsule.Lib.StableSort

/-!
# Sorting with an effectful comparison

Insertion sort for a comparison that may read and change a state and may trap, in the monad
`StateT π Option`. An entry is moved towards the front past the entries that it is less than, so
entries that compare alike keep their order. Whatever the comparison does, a sort that returns has
permuted its argument (`sort_perm`). If its answers agree with a transitive relation, the result is
sorted by it (`sort_sorted`); if they decide a total one, it is the stable sort (`sort_stable`). A
sort of two entries or more compares each entry with another one (`sort_compares`); it returns if no
comparison traps (`sort_returns`).
-/

namespace EffSort

variable {π α β : Type}

/-- A bind returns just when both parts do. -/
lemma bind_eq_some {x : StateT π Option α} {f : α → StateT π Option β} {p : π} {r : β × π} :
    (x >>= f) p = some r ↔ ∃ a q, x p = some (a, q) ∧ f a q = some r := by
  show Option.bind (x p) (fun aq => f aq.1 aq.2) = some r ↔ _
  rw [Option.bind_eq_some_iff]
  exact ⟨fun ⟨⟨a, q⟩, h1, h2⟩ => ⟨a, q, h1, h2⟩, fun ⟨a, q, h1, h2⟩ => ⟨⟨a, q⟩, h1, h2⟩⟩

/-- A bind goes on where its first part returns. -/
lemma bind_of_eq_some {x : StateT π Option α} {f : α → StateT π Option β} {p q : π} {a : α}
    (h : x p = some (a, q)) : (x >>= f) p = f a q := by
  show Option.bind (x p) (fun aq => f aq.1 aq.2) = f a q
  rw [h]
  rfl

/-- `pure` returns its argument and keeps the state. -/
lemma pure_eq_some {a : α} {p : π} {r : α × π} :
    (pure a : StateT π Option α) p = some r ↔ r = (a, p) := by
  show some (a, p) = some r ↔ _
  rw [Option.some.injEq, eq_comm]

/-- Insert an entry into a sorted list that is kept in reverse. -/
def insertRev (lt : α → α → StateT π Option Bool) (x : α) : List α → StateT π Option (List α)
  | [] => pure [x]
  | y :: ys => do
    if ← lt x y then
      let zs ← insertRev lt x ys
      pure (y :: zs)
    else
      pure (x :: y :: ys)

/-- Insert the entries of a list one after the other. -/
def insertAll (lt : α → α → StateT π Option Bool) : List α → List α → StateT π Option (List α)
  | acc, [] => pure acc
  | acc, x :: xs => do
    let acc' ← insertRev lt x acc
    insertAll lt acc' xs

/-- Insertion sort. -/
def sort (lt : α → α → StateT π Option Bool) (l : List α) : StateT π Option (List α) := do
  let acc ← insertAll lt [] l
  pure acc.reverse

section Perm
variable {lt : α → α → StateT π Option Bool}

/-- Inserting an entry adds it and nothing else. -/
lemma insertRev_perm {x : α} {ys zs : List α} {p q : π}
    (h : insertRev lt x ys p = some (zs, q)) : zs.Perm (x :: ys) := by
  induction ys generalizing zs p q with
  | nil =>
    cases pure_eq_some.1 h
    exact .refl _
  | cons y ys ih =>
    obtain ⟨b, p1, _, h⟩ := bind_eq_some.1 h
    cases b with
    | false =>
      cases pure_eq_some.1 h
      exact .refl _
    | true =>
      obtain ⟨ws, p2, hins, h⟩ := bind_eq_some.1 h
      cases pure_eq_some.1 h
      exact ((ih hins).cons y).trans (.swap x y ys)

/-- What holds of an entry and of a list holds where the entry is inserted. -/
lemma insertRev_forall {K : α → Prop} {x : α} {ys zs : List α} {p q : π} (hx : K x)
    (hys : ∀ y ∈ ys, K y) (h : insertRev lt x ys p = some (zs, q)) : ∀ z ∈ zs, K z := by
  intro z hz
  rcases List.mem_cons.1 ((insertRev_perm h).mem_iff.1 hz) with rfl | hz
  · exact hx
  · exact hys z hz

/-- Inserting a list adds its entries and nothing else. -/
lemma insertAll_perm {acc l r : List α} {p q : π}
    (h : insertAll lt acc l p = some (r, q)) : r.Perm (acc ++ l) := by
  -- each entry moves from `l` to the accumulator
  induction l generalizing acc r p q with
  | nil =>
    cases pure_eq_some.1 h
    simp
  | cons x xs ih =>
    obtain ⟨acc', p1, hins, h⟩ := bind_eq_some.1 h
    have hacc : (acc' ++ xs).Perm (acc ++ x :: xs) :=
      ((insertRev_perm hins).append_right xs).trans List.perm_middle.symm
    exact (ih h).trans hacc

/-- A sort that returns has permuted its argument. -/
theorem sort_perm {l r : List α} {p q : π} (h : sort lt l p = some (r, q)) : r.Perm l := by
  obtain ⟨acc, p1, hall, h⟩ := bind_eq_some.1 h
  cases pure_eq_some.1 h
  exact (List.reverse_perm acc).trans (by simpa using insertAll_perm hall)

end Perm

section Sorted
variable {lt : α → α → StateT π Option Bool} {r : α → α → Prop} {J : π → Prop} {K : α → Prop}

/-- On entries in `K`, in states in `J`, the comparison keeps the state in `J` and answers as `r`
has it: an entry that it puts first may stand first, and so may the other one if it does not. -/
def Agrees (lt : α → α → StateT π Option Bool) (r : α → α → Prop) (J : π → Prop) (K : α → Prop) :
    Prop :=
  ∀ p a b v q, J p → K a → K b → lt a b p = some (v, q) → J q ∧ if v then r a b else r b a

/-- Inserting keeps the order, which is reversed. -/
lemma insertRev_sorted (agrees : Agrees lt r J K) (trans : ∀ {a b c}, r a b → r b c → r a c)
    {x : α} {ys zs : List α} {p q : π} (hp : J p) (hx : K x) (hys : ∀ y ∈ ys, K y)
    (sorted : ys.Pairwise (Function.swap r)) (h : insertRev lt x ys p = some (zs, q)) :
    J q ∧ zs.Pairwise (Function.swap r) := by
  induction ys generalizing zs p q with
  | nil =>
    cases pure_eq_some.1 h
    exact ⟨hp, List.pairwise_singleton _ _⟩
  | cons y ys ih =>
    obtain ⟨last, rest⟩ := List.pairwise_cons.1 sorted
    obtain ⟨b, p1, hlt, h⟩ := bind_eq_some.1 h
    obtain ⟨hp1, order⟩ := agrees p x y b p1 hp hx (hys y (.head _)) hlt
    cases b with
    | false =>
      have hyx : r y x := order
      cases pure_eq_some.1 h
      refine ⟨hp1, List.pairwise_cons.2 ⟨?_, sorted⟩⟩
      intro z hz
      rcases List.mem_cons.1 hz with rfl | hz
      · exact hyx
      · exact trans (last z hz) hyx
    | true =>
      have hxy : r x y := order
      obtain ⟨ws, p2, hins, h⟩ := bind_eq_some.1 h
      cases pure_eq_some.1 h
      obtain ⟨hp2, sorted⟩ := ih hp1 (fun y hy => hys y (.tail _ hy)) rest hins
      refine ⟨hp2, List.pairwise_cons.2 ⟨?_, sorted⟩⟩
      intro z hz
      rcases List.mem_cons.1 ((insertRev_perm hins).mem_iff.1 hz) with rfl | hz
      · exact hxy
      · exact last z hz

/-- Inserting a list keeps the order. -/
lemma insertAll_sorted (agrees : Agrees lt r J K) (trans : ∀ {a b c}, r a b → r b c → r a c)
    {acc l s : List α} {p q : π} (hp : J p) (hacc : ∀ x ∈ acc, K x) (hl : ∀ x ∈ l, K x)
    (sorted : acc.Pairwise (Function.swap r)) (h : insertAll lt acc l p = some (s, q)) :
    J q ∧ s.Pairwise (Function.swap r) := by
  induction l generalizing acc s p q with
  | nil =>
    cases pure_eq_some.1 h
    exact ⟨hp, sorted⟩
  | cons x xs ih =>
    obtain ⟨acc', p1, hins, h⟩ := bind_eq_some.1 h
    obtain ⟨hp1, sorted'⟩ := insertRev_sorted agrees trans hp (hl x (.head _)) hacc sorted hins
    exact ih hp1 (insertRev_forall (hl x (.head _)) hacc hins) (fun x hx => hl x (.tail _ hx))
      sorted' h

/-- If the comparison agrees with a transitive relation, the result is sorted by it. -/
theorem sort_sorted (agrees : Agrees lt r J K) (trans : ∀ {a b c}, r a b → r b c → r a c)
    {l s : List α} {p q : π} (hp : J p) (hl : ∀ x ∈ l, K x) (h : sort lt l p = some (s, q)) :
    J q ∧ s.Pairwise r := by
  obtain ⟨acc, p1, hall, h⟩ := bind_eq_some.1 h
  cases pure_eq_some.1 h
  obtain ⟨hq, sorted⟩ := insertAll_sorted agrees trans hp (List.forall_mem_nil _) hl .nil hall
  exact ⟨hq, List.pairwise_reverse.2 sorted⟩

end Sorted

section Stable
variable {lt : α → α → StateT π Option Bool} {r : α → α → Prop} {J : π → Prop} {K : α → Prop}

/-- On entries in `K`, in states in `J`, the comparison keeps the state in `J` and decides whether
the first entry has to stand first. -/
def Decides (lt : α → α → StateT π Option Bool) (r : α → α → Prop) (J : π → Prop) (K : α → Prop) :
    Prop :=
  ∀ p a b v q, J p → K a → K b → lt a b p = some (v, q) → J q ∧ (v = true ↔ ¬ r b a)

/-- A comparison that decides a total relation agrees with it. -/
lemma Decides.agrees (decides : Decides lt r J K) (total : ∀ a b, r a b ∨ r b a) :
    Agrees lt r J K := by
  intro p a b v q hp ha hb h
  obtain ⟨hq, answer⟩ := decides p a b v q hp ha hb h
  refine ⟨hq, ?_⟩
  cases v with
  | true => exact (total a b).resolve_right (answer.1 rfl)
  | false => exact not_not.1 fun other => Bool.false_ne_true (answer.2 other)

/-- A comparison that reads a key of either entry decides a relation on the keys. -/
lemma decides_of_reads {κ : Type} {get : α → StateT π Option κ} {Key : α → κ → Prop}
    {f : κ → κ → Bool}
    (reads : ∀ p a x q, J p → K a → get a p = some (x, q) → J q ∧ Key a x)
    (order : ∀ a b x y, Key a x → Key b y → (f x y = true ↔ ¬ r b a)) :
    Decides (fun a b => do pure (f (← get a) (← get b))) r J K := by
  intro p a b v q hp ha hb h
  obtain ⟨x, p1, hx, h⟩ := bind_eq_some.1 h
  obtain ⟨y, p2, hy, h⟩ := bind_eq_some.1 h
  cases pure_eq_some.1 h
  obtain ⟨hp1, keyx⟩ := reads p a x p1 hp ha hx
  obtain ⟨hq, keyy⟩ := reads p1 b y q hp1 hb hy
  exact ⟨hq, order a b x y keyx keyy⟩

variable [DecidableRel r]

/-- An entry is not moved past one that it is tied with. -/
lemma insertRev_ties (decides : Decides lt r J K) (trans : ∀ a b c, r a b → r b c → r a c)
    {x : α} {ys zs : List α} {p q : π} (hp : J p) (hx : K x) (hys : ∀ y ∈ ys, K y)
    (h : insertRev lt x ys p = some (zs, q)) (a : α) :
    J q ∧ zs.filter (StableSort.tied r a) = (x :: ys).filter (StableSort.tied r a) := by
  induction ys generalizing zs p q with
  | nil =>
    cases pure_eq_some.1 h
    exact ⟨hp, rfl⟩
  | cons y ys ih =>
    obtain ⟨b, p1, hlt, h⟩ := bind_eq_some.1 h
    obtain ⟨hp1, answer⟩ := decides p x y b p1 hp hx (hys y (.head _)) hlt
    cases b with
    | false =>
      cases pure_eq_some.1 h
      exact ⟨hp1, rfl⟩
    | true =>
      obtain ⟨ws, p2, hins, h⟩ := bind_eq_some.1 h
      cases pure_eq_some.1 h
      obtain ⟨hp2, ties⟩ := ih hp1 (fun y hy => hys y (.tail _ hy)) hins
      refine ⟨hp2, ?_⟩
      -- `x` has to stand before `y`, so one of them at most is tied with `a`
      have apart : ¬ (StableSort.tied r a x = true ∧ StableSort.tied r a y = true) := by
        rintro ⟨tx, ty⟩
        exact answer.1 rfl (trans y a x (StableSort.tied_iff.1 ty).2 (StableSort.tied_iff.1 tx).1)
      by_cases tx : StableSort.tied r a x = true
      · have ty : ¬ StableSort.tied r a y = true := fun ty => apart ⟨tx, ty⟩
        rw [List.filter_cons_of_neg ty, ties, List.filter_cons_of_pos tx, List.filter_cons_of_pos tx,
          List.filter_cons_of_neg ty]
      · rw [List.filter_cons, ties, List.filter_cons_of_neg tx, List.filter_cons_of_neg tx,
          List.filter_cons]

/-- Inserting a list keeps ties in their order. -/
lemma insertAll_ties (decides : Decides lt r J K) (trans : ∀ a b c, r a b → r b c → r a c)
    {acc l s : List α} {p q : π} (hp : J p) (hacc : ∀ x ∈ acc, K x) (hl : ∀ x ∈ l, K x)
    (h : insertAll lt acc l p = some (s, q)) (a : α) :
    s.reverse.filter (StableSort.tied r a) = (acc.reverse ++ l).filter (StableSort.tied r a) := by
  induction l generalizing acc s p q with
  | nil =>
    cases pure_eq_some.1 h
    rw [List.append_nil]
  | cons x xs ih =>
    obtain ⟨acc', p1, hins, h⟩ := bind_eq_some.1 h
    obtain ⟨hp1, ties⟩ := insertRev_ties decides trans hp (hl x (.head _)) hacc hins a
    rw [ih hp1 (insertRev_forall (hl x (.head _)) hacc hins) (fun x hx => hl x (.tail _ hx)) h,
      List.filter_append, List.filter_reverse, ties, ← List.filter_reverse, ← List.filter_append,
      List.reverse_cons, List.append_assoc, List.singleton_append]

/-- If the comparison decides a total order, the result is the stable sort. -/
theorem sort_stable (decides : Decides lt r J K) (trans : ∀ a b c, r a b → r b c → r a c)
    (total : ∀ a b, r a b ∨ r b a) {l s : List α} {p q : π} (hp : J p) (hl : ∀ x ∈ l, K x)
    (h : sort lt l p = some (s, q)) : StableSort r l s where
  perm := sort_perm h
  sorted := (sort_sorted (decides.agrees total) (fun {a b c} => trans a b c) hp hl h).2
  ties a := by
    obtain ⟨acc, p1, hall, h⟩ := bind_eq_some.1 h
    cases pure_eq_some.1 h
    exact insertAll_ties decides trans hp (List.forall_mem_nil _) hl hall a

end Stable

section Returns
variable {lt : α → α → StateT π Option Bool} {J : π → Prop} {K : α → Prop}

/-- A bind does not trap just when its first part returns and the rest does not trap on the
result. -/
lemma bind_isSome {x : StateT π Option α} {f : α → StateT π Option β} {p : π} :
    ((x >>= f) p).isSome ↔ ∃ a q, x p = some (a, q) ∧ (f a q).isSome := by
  constructor
  · intro h
    obtain ⟨r, h⟩ := Option.isSome_iff_exists.1 h
    obtain ⟨a, q, hx, hf⟩ := bind_eq_some.1 h
    exact ⟨a, q, hx, by simp [hf]⟩
  · rintro ⟨a, q, hx, hf⟩
    obtain ⟨r, hf⟩ := Option.isSome_iff_exists.1 hf
    exact Option.isSome_iff_exists.2 ⟨r, bind_eq_some.2 ⟨a, q, hx, hf⟩⟩

/-- In states in `J` the comparison returns just on entries in `K`, and keeps the state in `J`. -/
structure DefinedOn (lt : α → α → StateT π Option Bool) (J : π → Prop) (K : α → Prop) : Prop where
  returns : ∀ p a b, J p → ((lt a b p).isSome ↔ K a ∧ K b)
  keeps : ∀ p a b v q, J p → lt a b p = some (v, q) → J q

/-- Inserting an entry keeps the state in `J`. -/
lemma insertRev_keeps (defined : DefinedOn lt J K) {x : α} {ys zs : List α} {p q : π} (hp : J p)
    (h : insertRev lt x ys p = some (zs, q)) : J q := by
  induction ys generalizing zs p q with
  | nil =>
    cases pure_eq_some.1 h
    exact hp
  | cons y ys ih =>
    obtain ⟨b, p1, hlt, h⟩ := bind_eq_some.1 h
    have hp1 := defined.keeps p x y b p1 hp hlt
    cases b with
    | false =>
      cases pure_eq_some.1 h
      exact hp1
    | true =>
      obtain ⟨ws, p2, hins, h⟩ := bind_eq_some.1 h
      cases pure_eq_some.1 h
      exact ih hp1 hins

/-- Inserting a list keeps the state in `J`. -/
lemma insertAll_keeps (defined : DefinedOn lt J K) {acc l s : List α} {p q : π} (hp : J p)
    (h : insertAll lt acc l p = some (s, q)) : J q := by
  induction l generalizing acc s p q with
  | nil =>
    cases pure_eq_some.1 h
    exact hp
  | cons x xs ih =>
    obtain ⟨acc', p1, hins, h⟩ := bind_eq_some.1 h
    exact ih (insertRev_keeps defined hp hins) h

/-- A sort keeps the state in `J`. -/
theorem sort_keeps (defined : DefinedOn lt J K) {l s : List α} {p q : π} (hp : J p)
    (h : sort lt l p = some (s, q)) : J q := by
  obtain ⟨acc, p1, hall, h⟩ := bind_eq_some.1 h
  cases pure_eq_some.1 h
  exact insertAll_keeps defined hp hall

/-- Among entries in `K` an entry can be inserted. -/
lemma insertRev_returns (defined : DefinedOn lt J K) {x : α} {ys : List α} {p : π} (hp : J p)
    (hx : K x) (hys : ∀ y ∈ ys, K y) : (insertRev lt x ys p).isSome := by
  induction ys generalizing p with
  | nil => rfl
  | cons y ys ih =>
    have compared := (defined.returns p x y hp).2 ⟨hx, hys y (.head _)⟩
    obtain ⟨⟨b, p1⟩, hlt⟩ := Option.isSome_iff_exists.1 compared
    refine bind_isSome.2 ⟨b, p1, hlt, ?_⟩
    cases b with
    | false => rfl
    | true =>
      have inserted := ih (defined.keeps p x y true p1 hp hlt) fun y hy => hys y (.tail _ hy)
      obtain ⟨⟨ws, p2⟩, hins⟩ := Option.isSome_iff_exists.1 inserted
      exact bind_isSome.2 ⟨ws, p2, hins, rfl⟩

/-- Among entries in `K` a list of such entries can be inserted. -/
lemma insertAll_returns (defined : DefinedOn lt J K) {acc l : List α} {p : π} (hp : J p)
    (hacc : ∀ x ∈ acc, K x) (hl : ∀ x ∈ l, K x) : (insertAll lt acc l p).isSome := by
  induction l generalizing acc p with
  | nil => rfl
  | cons x xs ih =>
    have inserted := insertRev_returns defined hp (hl x (.head _)) hacc
    obtain ⟨⟨acc', p1⟩, hins⟩ := Option.isSome_iff_exists.1 inserted
    have inserted' := ih (insertRev_keeps defined hp hins)
      (insertRev_forall (hl x (.head _)) hacc hins) fun y hy => hl y (.tail _ hy)
    exact bind_isSome.2 ⟨acc', p1, hins, inserted'⟩

/-- Inserting into a list compares every entry that is inserted, and the last one that is there. -/
lemma insertAll_compares (defined : DefinedOn lt J K) {y : α} {ys l : List α} {p : π} (hp : J p)
    (h : (insertAll lt (y :: ys) l p).isSome) : (∀ x ∈ l, K x) ∧ (l ≠ [] → K y) := by
  induction l generalizing y ys p with
  | nil => exact ⟨List.forall_mem_nil _, fun h => absurd rfl h⟩
  | cons x xs ih =>
    obtain ⟨acc', p1, hins, h⟩ := bind_isSome.1 h
    obtain ⟨b, p2, hlt, _⟩ := bind_eq_some.1 hins
    have compared : K x ∧ K y := (defined.returns p x y hp).1 (by simp [hlt])
    have rest : ∀ z ∈ xs, K z := by
      cases acc' with
      | nil => exact absurd (insertRev_perm hins).length_eq (by simp)
      | cons w ws => exact (ih (insertRev_keeps defined hp hins) h).1
    exact ⟨List.forall_mem_cons.2 ⟨compared.1, rest⟩, fun _ => compared.2⟩

/-- A sort returns just when every entry is in `K`, unless there is nothing to compare. -/
theorem sort_isSome_iff (defined : DefinedOn lt J K) {l : List α} {p : π} (hp : J p) :
    (sort lt l p).isSome ↔ (2 ≤ l.length → ∀ x ∈ l, K x) := by
  have all : (sort lt l p).isSome ↔ (insertAll lt [] l p).isSome := by
    rw [sort, bind_isSome, Option.isSome_iff_exists]
    exact ⟨fun ⟨a, q, h, _⟩ => ⟨(a, q), h⟩, fun ⟨(a, q), h⟩ => ⟨a, q, h, rfl⟩⟩
  rw [all]
  constructor
  · intro h two
    match l, two with
    | x :: y :: l, _ =>
      -- the first entry is compared when the second one is inserted
      have first : (insertAll lt [x] (y :: l) p).isSome := h
      obtain ⟨rest, hx⟩ := insertAll_compares defined hp first
      exact List.forall_mem_cons.2 ⟨hx (List.cons_ne_nil _ _), rest⟩
  · intro h
    match l with
    | [] => rfl
    | [x] => rfl
    | x :: y :: l =>
      exact insertAll_returns defined hp (List.forall_mem_nil _) (h (by simp))

end Returns

end EffSort
