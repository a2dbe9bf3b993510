import Mathlib

/-!
# Lists merged by a key

`newOn key ks l` keeps the entries of `l` whose key is not among `ks` and has not occurred earlier
in `l`; `mergeOn key l r` appends to `l` what `r` adds by key. The entries of the left list always
win: an entry of `r` whose key is present is dropped, whatever its other fields are.
-/

namespace Keyed

variable {α κ : Type*} [DecidableEq κ] (key : α → κ)

/-- The entries of a list whose key is neither among `ks` nor the key of an earlier entry. -/
def newOn : List κ → List α → List α
  | _, [] => []
  | ks, x :: xs => if key x ∈ ks then newOn ks xs else x :: newOn (ks ++ [key x]) xs

/-- `l` followed by the entries of `r` that are new by key. -/
def mergeOn (l r : List α) : List α := l ++ newOn key (l.map key) r

variable {key}

@[simp]
lemma newOn_nil (ks : List κ) : newOn key ks [] = [] := rfl

lemma newOn_old {ks : List κ} {x : α} (xs : List α) (h : key x ∈ ks) :
    newOn key ks (x :: xs) = newOn key ks xs := if_pos h

lemma newOn_new {ks : List κ} {x : α} (xs : List α) (h : key x ∉ ks) :
    newOn key ks (x :: xs) = x :: newOn key (ks ++ [key x]) xs := if_neg h

/-- A new entry is an entry with an unknown key. -/
lemma of_mem_newOn {ks : List κ} {l : List α} {x : α} (h : x ∈ newOn key ks l) :
    x ∈ l ∧ key x ∉ ks := by
  -- the known keys grow along the list, so they are generalised
  induction l generalizing ks with
  | nil => cases h
  | cons y ys ih =>
    by_cases hy : key y ∈ ks
    · rw [newOn_old ys hy] at h
      exact ⟨.tail _ (ih h).1, (ih h).2⟩
    · rw [newOn_new ys hy] at h
      cases h with
      | head => exact ⟨.head _, hy⟩
      | tail _ h =>
        obtain ⟨hx, hk⟩ := ih h
        exact ⟨.tail _ hx, fun h => hk (by simp [h])⟩

/-- The keys that are added are those of the list that were unknown. -/
lemma key_mem_newOn {ks : List κ} {l : List α} {k : κ} :
    k ∈ (newOn key ks l).map key ↔ k ∈ l.map key ∧ k ∉ ks := by
  induction l generalizing ks with
  | nil => simp
  | cons x xs ih =>
    by_cases hx : key x ∈ ks
    · rw [newOn_old xs hx, ih, List.map_cons, List.mem_cons]
      constructor
      · exact fun h => ⟨.inr h.1, h.2⟩
      · rintro ⟨rfl | h, hk⟩
        · exact absurd hx hk
        · exact ⟨h, hk⟩
    · rw [newOn_new xs hx, List.map_cons, List.map_cons, List.mem_cons, List.mem_cons, ih]
      simp only [List.mem_append, List.mem_singleton, not_or]
      constructor
      · rintro (rfl | ⟨h, hk, _⟩)
        · exact ⟨.inl rfl, hx⟩
        · exact ⟨.inr h, hk⟩
      · rintro ⟨rfl | h, hk⟩
        · exact .inl rfl
        · by_cases e : k = key x
          · exact .inl e
          · exact .inr ⟨h, hk, e⟩

/-- An entry with an unknown key is kept if it is the only one in the list with its key. -/
lemma mem_newOn_of_unique {ks : List κ} {l : List α} {x : α} (hx : x ∈ l) (hk : key x ∉ ks)
    (unique : ∀ y ∈ l, key y = key x → y = x) : x ∈ newOn key ks l := by
  obtain ⟨y, hy, e⟩ := List.mem_map.1 (key_mem_newOn.2 ⟨List.mem_map_of_mem (f := key) hx, hk⟩)
  exact unique y (of_mem_newOn hy).1 e ▸ hy

/-- The entries that are added have pairwise distinct keys. -/
lemma nodup_newOn {ks : List κ} {l : List α} : ((newOn key ks l).map key).Nodup := by
  induction l generalizing ks with
  | nil => simp
  | cons x xs ih =>
    by_cases hx : key x ∈ ks
    · rw [newOn_old xs hx]
      exact ih
    · rw [newOn_new xs hx, List.map_cons, List.nodup_cons]
      -- the key of the entry is known to the rest of the loop
      exact ⟨fun h => (key_mem_newOn.1 h).2 (by simp), ih⟩

/-- What is added is part of the list, in its order. -/
lemma newOn_sublist {ks : List κ} {l : List α} : List.Sublist (newOn key ks l) l := by
  induction l generalizing ks with
  | nil => exact .refl _
  | cons x xs ih =>
    by_cases hx : key x ∈ ks
    · rw [newOn_old xs hx]
      exact ih.cons x
    · rw [newOn_new xs hx]
      exact ih.cons_cons x

/-- A list with distinct and unknown keys is added as a whole. -/
lemma newOn_of_nodup {ks : List κ} {l : List α} (distinct : (l.map key).Nodup)
    (unknown : ∀ x ∈ l, key x ∉ ks) : newOn key ks l = l := by
  induction l generalizing ks with
  | nil => rfl
  | cons x xs ih =>
    obtain ⟨first, rest⟩ := List.nodup_cons.1 distinct
    rw [newOn_new xs (unknown x (.head _)), ih rest]
    intro y hy h
    rcases List.mem_append.1 h with h | h
    · exact unknown y (.tail _ hy) h
    · rw [List.mem_singleton] at h
      exact first (h ▸ List.mem_map_of_mem hy)

/-- Only which keys are known matters. -/
lemma newOn_congr {ks ks' : List κ} (same : ∀ k, k ∈ ks ↔ k ∈ ks') (l : List α) :
    newOn key ks l = newOn key ks' l := by
  induction l generalizing ks ks' with
  | nil => rfl
  | cons x xs ih =>
    by_cases hx : key x ∈ ks
    · rw [newOn_old xs hx, newOn_old xs ((same _).1 hx)]
      exact ih same
    · rw [newOn_new xs hx, newOn_new xs (mt (same _).2 hx)]
      congr 1
      exact ih fun k => by simp only [List.mem_append, same]

/-- Two keys that tell the same entries apart find the same ones new. -/
lemma newOn_congr_key {κ' : Type*} [DecidableEq κ'] {key' : α → κ'} {ks : List κ} {ks' : List κ'}
    {l : List α} (known : ∀ x ∈ l, key x ∈ ks ↔ key' x ∈ ks')
    (same : ∀ x ∈ l, ∀ y ∈ l, key x = key y ↔ key' x = key' y) :
    newOn key ks l = newOn key' ks' l := by
  induction l generalizing ks ks' with
  | nil => rfl
  | cons x xs ih =>
    have rest : ∀ y ∈ xs, ∀ z ∈ xs, key y = key z ↔ key' y = key' z := fun y hy z hz =>
      same y (.tail _ hy) z (.tail _ hz)
    by_cases hx : key x ∈ ks
    · rw [newOn_old xs hx, newOn_old xs ((known x (.head _)).1 hx)]
      exact ih (fun y hy => known y (.tail _ hy)) rest
    · rw [newOn_new xs hx, newOn_new xs (mt (known x (.head _)).2 hx)]
      congr 1
      refine ih (fun y hy => ?_) rest
      rw [List.mem_append, List.mem_append, List.mem_singleton, List.mem_singleton,
        known y (.tail _ hy), same y (.tail _ hy) x (.head _)]

/-- What is new in a list and then in a second one is new in both. -/
lemma newOn_append (ks : List κ) (l r : List α) :
    newOn key ks (l ++ r) = newOn key ks l ++ newOn key (ks ++ l.map key) r := by
  induction l generalizing ks with
  | nil => simp
  | cons x xs ih =>
    rw [List.cons_append]
    by_cases hx : key x ∈ ks
    · rw [newOn_old _ hx, newOn_old _ hx, ih]
      congr 1
      apply newOn_congr
      intro k
      simp only [List.map_cons, List.mem_append, List.mem_cons]
      exact ⟨fun h => h.imp id .inr, fun h => h.elim .inl fun h => h.elim (fun e => .inl (e ▸ hx)) .inr⟩
    · rw [newOn_new _ hx, newOn_new _ hx, ih]
      simp

/-- What is new to two sets of known keys, one after the other, is new to both. -/
lemma newOn_newOn (ks ks' : List κ) (l : List α) :
    newOn key ks (newOn key ks' l) = newOn key (ks ++ ks') l := by
  induction l generalizing ks ks' with
  | nil => rfl
  | cons x xs ih =>
    by_cases hx' : key x ∈ ks'
    · rw [newOn_old _ hx', newOn_old xs (List.mem_append_right ks hx'), ih]
    · rw [newOn_new _ hx']
      by_cases hx : key x ∈ ks
      · rw [newOn_old _ hx, newOn_old xs (List.mem_append_left ks' hx), ih]
        apply newOn_congr
        intro k
        simp only [List.mem_append, List.mem_singleton]
        exact ⟨fun h => h.elim .inl fun h => h.elim .inr fun e => .inl (e ▸ hx),
          fun h => h.elim .inl fun h => .inr (.inl h)⟩
      · have new : key x ∉ ks ++ ks' := fun h => (List.mem_append.1 h).elim hx hx'
        rw [newOn_new _ hx, newOn_new xs new, ih]
        congr 1
        apply newOn_congr
        intro k
        simp only [List.mem_append, List.mem_singleton]
        tauto

/-- The new entries are those whose key is unknown and does not occur at an earlier position. -/
lemma newOn_eq_filter (ks : List κ) (l : List α) :
    newOn key ks l = (l.zipIdx.filter fun x =>
      decide (key x.1 ∉ ks ∧ key x.1 ∉ (l.take x.2).map key)).map Prod.fst := by
  -- the entries that have been passed are generalised
  have passed (pre : List α) : newOn key (ks ++ pre.map key) l =
      ((l.zipIdx pre.length).filter fun x =>
        decide (key x.1 ∉ ks ∧ key x.1 ∉ ((pre ++ l).take x.2).map key)).map Prod.fst := by
    induction l generalizing pre with
    | nil => rfl
    | cons y ys ih =>
      have next := ih (pre ++ [y])
      rw [List.length_append, List.length_singleton, List.append_assoc, List.singleton_append,
        List.map_append] at next
      have here : (pre ++ y :: ys).take pre.length = pre := List.take_left
      rw [List.zipIdx_cons, List.filter_cons]
      by_cases hy : key y ∈ ks ++ pre.map key
      · have known : ¬ (key y ∉ ks ∧ key y ∉ pre.map key) := fun h =>
          (List.mem_append.1 hy).elim h.1 h.2
        rw [newOn_old ys hy, here, if_neg (by simpa using known), ← next, ← List.append_assoc]
        apply newOn_congr
        intro k
        rw [List.mem_append (t := List.map key [y])]
        exact ⟨.inl, fun h => h.elim id fun e => List.mem_singleton.1 e ▸ hy⟩
      · have new : key y ∉ ks ∧ key y ∉ pre.map key := not_or.1 (mt List.mem_append.2 hy)
        rw [newOn_new ys hy, here, if_pos (by simpa using new), List.map_cons, ← next,
          ← List.append_assoc]
        rfl
  simpa using passed []

/-- Nothing is added just when all keys are known. -/
lemma newOn_eq_nil_iff {ks : List κ} {l : List α} :
    newOn key ks l = [] ↔ ∀ x ∈ l, key x ∈ ks := by
  constructor
  · intro none x hx
    by_contra unknown
    have added := key_mem_newOn.2 ⟨List.mem_map_of_mem (f := key) hx, unknown⟩
    simp [none] at added
  · intro known
    by_contra some
    obtain ⟨x, hx⟩ := List.exists_mem_of_ne_nil _ some
    obtain ⟨hl, unknown⟩ := of_mem_newOn hx
    exact unknown (known x hl)

section Merge
variable {l r : List α} {x : α}

/-- Merging is associative. -/
theorem mergeOn_assoc (a b c : List α) :
    mergeOn key (mergeOn key a b) c = mergeOn key a (mergeOn key b c) := by
  have known (k : κ) : k ∈ (mergeOn key a b).map key ↔ k ∈ a.map key ++ b.map key ++ b.map key := by
    rw [mergeOn, List.map_append, List.mem_append, key_mem_newOn]
    simp only [List.mem_append]
    tauto
  calc mergeOn key (mergeOn key a b) c
      = mergeOn key a b ++ newOn key (a.map key ++ b.map key ++ b.map key) c := by
        rw [mergeOn, newOn_congr known]
    _ = a ++ (newOn key (a.map key) b ++
          newOn key (a.map key ++ b.map key) (newOn key (b.map key) c)) := by
        rw [newOn_newOn, mergeOn, List.append_assoc]
    _ = mergeOn key a (mergeOn key b c) := by
        rw [← newOn_append]
        rfl

/-- A merge changes nothing just when all keys are known. -/
lemma mergeOn_eq_left_iff : mergeOn key l r = l ↔ ∀ x ∈ r, key x ∈ l.map key := by
  rw [mergeOn, List.append_right_eq_self, newOn_eq_nil_iff]

/-- The keys of a merge are those of the two lists. -/
lemma key_mem_mergeOn {k : κ} : k ∈ (mergeOn key l r).map key ↔ k ∈ l.map key ∨ k ∈ r.map key := by
  rw [mergeOn, List.map_append, List.mem_append, key_mem_newOn]
  constructor
  · exact fun h => h.imp id And.left
  · rintro (h | h)
    · exact .inl h
    · by_cases hk : k ∈ l.map key
      · exact .inl hk
      · exact .inr ⟨h, hk⟩

/-- Merging into a list with distinct keys keeps them distinct, whatever is merged. -/
lemma nodup_mergeOn (h : (l.map key).Nodup) : ((mergeOn key l r).map key).Nodup := by
  rw [mergeOn, List.map_append]
  apply h.append nodup_newOn
  intro k hl hr
  exact (key_mem_newOn.1 hr).2 hl

/-- Merging keeps the left list. -/
lemma mem_mergeOn_left (h : x ∈ l) : x ∈ mergeOn key l r := List.mem_append_left _ h

/-- What a merge holds comes from one of the two lists. -/
lemma of_mem_mergeOn (h : x ∈ mergeOn key l r) : x ∈ l ∨ x ∈ r :=
  (List.mem_append.1 h).imp id fun h => (of_mem_newOn h).1

/-- An entry of the right list with a key that the left list lacks is taken over. -/
lemma mem_mergeOn_right (hx : x ∈ r) (hk : key x ∉ l.map key)
    (unique : ∀ y ∈ r, key y = key x → y = x) : x ∈ mergeOn key l r :=
  List.mem_append_right _ (mem_newOn_of_unique hx hk unique)

/-- A merge takes the right list's word on all its keys just when the left list does not
disagree. -/
lemma mergeOn_current_iff (distinct : (r.map key).Nodup) :
    (∀ x ∈ r, x ∈ mergeOn key l r ∧ ∀ y ∈ mergeOn key l r, key y = key x → y = x) ↔
      ∀ x ∈ r, ∀ y ∈ l, key y = key x → y = x := by
  have unique : ∀ x ∈ r, ∀ y ∈ r, key y = key x → y = x := fun x hx y hy =>
    List.inj_on_of_nodup_map distinct hy hx
  constructor
  · intro current x hx y hy
    exact (current x hx).2 y (mem_mergeOn_left hy)
  · intro agree x hx
    constructor
    · by_cases hk : key x ∈ l.map key
      · obtain ⟨y, hy, e⟩ := List.mem_map.1 hk
        exact agree x hx y hy e ▸ mem_mergeOn_left hy
      · exact mem_mergeOn_right hx hk (unique x hx)
    · intro y hy
      exact (of_mem_mergeOn hy).elim (agree x hx y) (unique x hx y)

end Merge

/-! ## Looking up a key -/

/-- The first entry with a key. -/
def lookup (key : α → κ) (k : κ) (l : List α) : Option α := l.find? fun x => key x = k

section Lookup
variable {l r : List α} {x : α} {k : κ}

/-- What is found is an entry with the key. -/
lemma of_lookup (h : lookup key k l = some x) : x ∈ l ∧ key x = k :=
  ⟨List.mem_of_find?_eq_some h, by simpa using List.find?_some h⟩

/-- Nothing is found just when the key is unknown. -/
lemma lookup_eq_none_iff : lookup key k l = none ↔ k ∉ l.map key := by
  simp [lookup]

/-- An unknown key is found among the new entries just as in the list, and a known one is not. -/
lemma lookup_newOn {ks : List κ} :
    lookup key k (newOn key ks l) = if k ∈ ks then none else lookup key k l := by
  induction l generalizing ks with
  | nil => simp [lookup]
  | cons x xs ih =>
    by_cases hx : key x ∈ ks
    · rw [newOn_old xs hx, ih]
      by_cases hk : k ∈ ks
      · simp only [if_pos hk]
      · have other : key x ≠ k := fun e => hk (e ▸ hx)
        simp [lookup, hk, other]
    · rw [newOn_new xs hx]
      by_cases e : key x = k
      · subst e
        simp [lookup, hx]
      · have step : lookup key k (x :: newOn key (ks ++ [key x]) xs) =
            lookup key k (newOn key (ks ++ [key x]) xs) := by simp [lookup, e]
        rw [step, ih]
        have same : k ∈ ks ++ [key x] ↔ k ∈ ks := by simp [Ne.symm e]
        simp [lookup, e, same]

/-- A merge finds what the left list finds, and else what the right list finds. -/
lemma lookup_mergeOn : lookup key k (mergeOn key l r) = (lookup key k l).or (lookup key k r) := by
  have left : lookup key k (mergeOn key l r) =
      (lookup key k l).or (lookup key k (newOn key (l.map key) r)) := List.find?_append
  rw [left, lookup_newOn]
  cases h : lookup key k l with
  | none => rw [if_neg (lookup_eq_none_iff.1 h)]
  | some x => rfl

/-- With distinct keys the entries are the ones that are found under their keys. -/
lemma mem_iff_lookup (distinct : (l.map key).Nodup) : x ∈ l ↔ lookup key (key x) l = some x := by
  constructor
  · intro hx
    cases h : lookup key (key x) l with
    | none => exact absurd (List.mem_map_of_mem hx) (lookup_eq_none_iff.1 h)
    | some y =>
      obtain ⟨hy, e⟩ := of_lookup h
      rw [List.inj_on_of_nodup_map distinct hy hx e]
  · exact fun h => (of_lookup h).1

/-- With distinct keys an entry is found just under its key. -/
lemma lookup_eq_some_iff (distinct : (l.map key).Nodup) :
    lookup key k l = some x ↔ x ∈ l ∧ key x = k := by
  constructor
  · exact of_lookup
  · rintro ⟨hx, rfl⟩
    exact (mem_iff_lookup distinct).1 hx

/-- The order of entries with distinct keys does not matter for what is found. -/
lemma lookup_perm (distinct : (l.map key).Nodup) (perm : r.Perm l) :
    lookup key k r = lookup key k l := by
  have distinct' : (r.map key).Nodup := (perm.map key).nodup_iff.2 distinct
  apply Option.ext
  intro x
  rw [lookup_eq_some_iff distinct, lookup_eq_some_iff distinct', perm.mem_iff]

/-- Of entries with distinct keys, what a filter keeps is found if it was found before. -/
lemma lookup_filter (distinct : (l.map key).Nodup) (p : α → Bool) :
    lookup key k (l.filter p) = (lookup key k l).filter p := by
  have distinct' : ((l.filter p).map key).Nodup :=
    List.Nodup.sublist (List.filter_sublist.map key) distinct
  apply Option.ext
  intro x
  rw [lookup_eq_some_iff distinct', Option.filter_eq_some_iff, lookup_eq_some_iff distinct,
    List.mem_filter, and_right_comm]

/-- Lists with distinct keys are permutations of each other if they find the same. -/
lemma perm_of_lookup (hl : (l.map key).Nodup) (hr : (r.map key).Nodup)
    (same : ∀ k, lookup key k l = lookup key k r) : l.Perm r := by
  rw [List.perm_ext_iff_of_nodup (List.Nodup.of_map key hl) (List.Nodup.of_map key hr)]
  intro x
  rw [mem_iff_lookup hl, mem_iff_lookup hr, same]

end Lookup

/-! ## Merging one list after the other -/

/-- Merge the lists into `l`, one at a time. -/
def mergeAll (key : α → κ) (l : List α) (ls : List (List α)) : List α := ls.foldl (mergeOn key) l

section MergeAll
variable {l : List α} {ls ls' : List (List α)} {k : κ}

/-- The keys of all merges are distinct if those of the first list are. -/
lemma nodup_mergeAll (h : (l.map key).Nodup) : ((mergeAll key l ls).map key).Nodup := by
  induction ls generalizing l with
  | nil => exact h
  | cons r rs ih => exact ih (nodup_mergeOn h)

/-- The keys of all merges are those of the lists. -/
lemma key_mem_mergeAll :
    k ∈ (mergeAll key l ls).map key ↔ k ∈ l.map key ∨ ∃ r ∈ ls, k ∈ r.map key := by
  induction ls generalizing l with
  | nil => simp [mergeAll]
  | cons r rs ih =>
    have step : mergeAll key l (r :: rs) = mergeAll key (mergeOn key l r) rs := rfl
    rw [step, ih, key_mem_mergeOn, List.exists_mem_cons_iff, or_assoc]

/-- All merges find what the first list finds, and else what the first of the others finds that
finds anything. -/
lemma lookup_mergeAll :
    lookup key k (mergeAll key l ls) = (lookup key k l).or (ls.findSome? (lookup key k)) := by
  induction ls generalizing l with
  | nil => simp [mergeAll]
  | cons r rs ih =>
    have step : mergeAll key l (r :: rs) = mergeAll key (mergeOn key l r) rs := rfl
    rw [step, ih, lookup_mergeOn, List.findSome?_cons, Option.or_assoc]
    cases lookup key k r <;> simp

/-- Lists that do not disagree about a key find the same in every order and repetition. -/
lemma findSome_lookup_congr (same : ∀ r, r ∈ ls ↔ r ∈ ls')
    (agree : ∀ r ∈ ls, ∀ r' ∈ ls, ∀ x ∈ lookup key k r, ∀ y ∈ lookup key k r', x = y) :
    ls.findSome? (lookup key k) = ls'.findSome? (lookup key k) := by
  cases h : ls.findSome? (lookup key k) with
  | none =>
    symm
    rw [List.findSome?_eq_none_iff] at h ⊢
    exact fun r hr => h r ((same r).2 hr)
  | some x =>
    obtain ⟨r, hr, hx⟩ := List.exists_of_findSome?_eq_some h
    cases h' : ls'.findSome? (lookup key k) with
    | none =>
      rw [List.findSome?_eq_none_iff] at h'
      rw [h' r ((same r).1 hr)] at hx
      cases hx
    | some y =>
      obtain ⟨r', hr', hy⟩ := List.exists_of_findSome?_eq_some h'
      rw [agree r hr r' ((same r').2 hr') x hx y hy]

/-- Merging is insensitive to order and repetition: the result has the keys of the lists, and if the
lists do not disagree, it is the same up to order. -/
theorem mergeAll_perm (same : ∀ r, r ∈ ls ↔ r ∈ ls')
    (agree : ∀ k, ∀ r ∈ ls, ∀ r' ∈ ls, ∀ x ∈ lookup key k r, ∀ y ∈ lookup key k r', x = y) :
    (mergeAll key [] ls).Perm (mergeAll key [] ls') := by
  have distinct (ls : List (List α)) : ((mergeAll key [] ls).map key).Nodup :=
    nodup_mergeAll (l := []) List.nodup_nil
  apply perm_of_lookup (distinct ls) (distinct ls')
  intro k
  rw [lookup_mergeAll, lookup_mergeAll, findSome_lookup_congr same (agree k)]

end MergeAll

/-- The loop that appends each entry whose key the result lacks computes the merge. -/
lemma foldl_append_eq_mergeOn (l r : List α) :
    r.foldl (fun acc x => if key x ∈ acc.map key then acc else acc ++ [x]) l = mergeOn key l r := by
  induction r generalizing l with
  | nil => simp [mergeOn]
  | cons x xs ih =>
    rw [List.foldl_cons, ih]
    by_cases hx : key x ∈ l.map key
    · rw [if_pos hx, mergeOn, mergeOn, newOn_old xs hx]
    · rw [if_neg hx, mergeOn, mergeOn, newOn_new xs hx]
      simp

/-! ## Putting an entry under its key -/

/-- Put an entry in the place of the first one with its key, or at the end if there is none. -/
def put (key : α → κ) (x : α) (l : List α) : List α :=
  match l.findIdx? fun y => key y = key x with
  | some i => l.set i x
  | none => l ++ [x]

/-- Without its first entry with a key. -/
def erase (key : α → κ) (k : κ) (l : List α) : List α := l.eraseP fun y => key y = k

section Put
variable {l : List α} {x : α} {k : κ}

lemma put_cons (y : α) :
    put key x (y :: l) = if key y = key x then x :: l else y :: put key x l := by
  by_cases e : key y = key x
  · simp [put, List.findIdx?_cons, e]
  · simp only [put, List.findIdx?_cons, e, decide_false, if_false, Bool.false_eq_true]
    cases l.findIdx? fun y => key y = key x with
    | none => rfl
    | some i => rfl

/-- The keys stay in their places, a new one comes last. -/
lemma map_put : (put key x l).map key =
    if key x ∈ l.map key then l.map key else l.map key ++ [key x] := by
  induction l with
  | nil => rfl
  | cons y l ih =>
    rw [put_cons]
    by_cases e : key y = key x
    · simp [e]
    · rw [if_neg e, List.map_cons, ih]
      by_cases known : key x ∈ l.map key
      · simp only [List.map_cons, List.mem_cons, known, or_true, if_true]
      · simp only [List.map_cons, List.mem_cons, known, Ne.symm e, or_false, if_false,
          List.cons_append]

/-- Distinct keys stay distinct. -/
lemma nodup_put (distinct : (l.map key).Nodup) : ((put key x l).map key).Nodup := by
  rw [map_put]
  split
  · exact distinct
  · next new =>
    rw [← List.concat_eq_append]
    exact distinct.concat new

/-- An entry that is put is found under its key, and nothing else changes. -/
lemma lookup_put : lookup key k (put key x l) = if k = key x then some x else lookup key k l := by
  induction l with
  | nil =>
    by_cases e : k = key x
    · simp [put, lookup, e]
    · simp [put, lookup, e, Ne.symm e]
  | cons y l ih =>
    rw [put_cons]
    by_cases e : key y = key x
    · by_cases found : k = key x
      · simp [lookup, e, found]
      · simp [lookup, e, found, Ne.symm found]
    · rw [if_neg e]
      by_cases first : key y = k
      · have other : k ≠ key x := fun same => e (first.trans same)
        simp [lookup, first, other]
      · have skip : ∀ r : List α, lookup key k (y :: r) = lookup key k r := fun r => by
          simp [lookup, first]
        rw [skip, skip, ih]

/-- Distinct keys stay distinct. -/
lemma nodup_erase (distinct : (l.map key).Nodup) : ((erase key k l).map key).Nodup :=
  List.Nodup.sublist ((List.eraseP_sublist).map key) distinct

/-- With distinct keys nothing is found under a key that is erased, and nothing else changes. -/
lemma lookup_erase (distinct : (l.map key).Nodup) (k' : κ) :
    lookup key k' (erase key k l) = if k' = k then none else lookup key k' l := by
  have kept : erase key k l = l.filter fun y => !decide (key y = k) := by
    rw [erase]
    induction l with
    | nil => rfl
    | cons y l ih =>
      have fresh := List.nodup_cons.1 distinct
      by_cases e : key y = k
      · have rest : ∀ z ∈ l, (!decide (key z = k)) = true := by
          intro z hz
          have other : key z ≠ k := by
            intro same
            apply fresh.1
            rw [e, ← same]
            exact List.mem_map_of_mem hz
          simp [other]
        simp [e, List.filter_eq_self.2 rest]
      · simp [e, ih fresh.2]
  rw [kept, lookup_filter distinct]
  by_cases e : k' = k
  · rw [if_pos e, Option.filter_eq_none_iff]
    intro y hy
    simp [(of_lookup hy).2, e]
  · rw [if_neg e]
    cases found : lookup key k' l with
    | none => rfl
    | some y => simp [(of_lookup found).2, e]

end Put

end Keyed
