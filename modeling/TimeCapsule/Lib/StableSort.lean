import Mathlib

/-!
# Stable sorts

A stable sort of a list has its entries in order, and entries that may stand either way around stand
as before. This determines it (`StableSort.unique`), so a stable sort commutes with every filter
(`StableSort.filter`), and each one computes what `List.mergeSort` does (`StableSort.eq_mergeSort`).
-/

/-- Whether two entries may stand either way around. -/
def StableSort.tied {α : Type*} (r : α → α → Prop) [DecidableRel r] (a b : α) : Bool :=
  decide (r a b ∧ r b a)

/-- The second list is the first one in order, with ties as before. -/
structure StableSort {α : Type*} (r : α → α → Prop) [DecidableRel r] (l s : List α) : Prop where
  perm : s.Perm l
  sorted : s.Pairwise r
  ties : ∀ a, s.filter (StableSort.tied r a) = l.filter (StableSort.tied r a)

namespace StableSort

variable {α : Type*} {r : α → α → Prop} [DecidableRel r] {l s t : List α} {a b : α}

lemma tied_iff : tied r a b = true ↔ r a b ∧ r b a := decide_eq_true_iff

/-- Every entry is tied with itself, so lists with the same ties have the same entries. -/
lemma mem_iff_of_ties (refl : ∀ a, r a a)
    (ties : ∀ a, s.filter (tied r a) = t.filter (tied r a)) (a : α) : a ∈ s ↔ a ∈ t := by
  have self : tied r a a = true := tied_iff.2 ⟨refl a, refl a⟩
  have same : a ∈ s.filter (tied r a) ↔ a ∈ t.filter (tied r a) := by rw [ties]
  simpa [self] using same

/-- Sorted lists with the same ties are equal. -/
lemma eq_of_ties (refl : ∀ a, r a a) (hs : s.Pairwise r) (ht : t.Pairwise r)
    (ties : ∀ a, s.filter (tied r a) = t.filter (tied r a)) : s = t := by
  induction s generalizing t with
  | nil =>
    have none (a : α) (h : a ∈ t) := List.not_mem_nil ((mem_iff_of_ties refl ties a).2 h)
    exact (List.eq_nil_iff_forall_not_mem.2 none).symm
  | cons a s ih =>
    cases t with
    | nil => exact absurd ((mem_iff_of_ties refl ties a).1 (.head _)) List.not_mem_nil
    | cons b t =>
      obtain ⟨first, sorted⟩ := List.pairwise_cons.1 hs
      obtain ⟨first', sorted'⟩ := List.pairwise_cons.1 ht
      -- each of the two heads is in the other list, so they are tied
      have before : r a b := by
        rcases List.mem_cons.1 ((mem_iff_of_ties refl ties b).2 (.head _)) with rfl | h
        · exact refl b
        · exact first b h
      have behind : r b a := by
        rcases List.mem_cons.1 ((mem_iff_of_ties refl ties a).1 (.head _)) with rfl | h
        · exact refl a
        · exact first' a h
      have heads := ties a
      rw [List.filter_cons_of_pos (tied_iff.2 ⟨refl a, refl a⟩),
        List.filter_cons_of_pos (tied_iff.2 ⟨before, behind⟩)] at heads
      obtain rfl := (List.cons.inj heads).1
      have rest (c : α) : s.filter (tied r c) = t.filter (tied r c) := by
        have h := ties c
        rw [List.filter_cons, List.filter_cons] at h
        split at h
        · exact (List.cons.inj h).2
        · exact h
      rw [ih sorted sorted' rest]

/-- There is one stable sort of a list. -/
theorem unique (refl : ∀ a, r a a) (hs : StableSort r l s) (ht : StableSort r l t) : s = t :=
  eq_of_ties refl hs.sorted ht.sorted fun a => (hs.ties a).trans (ht.ties a).symm

/-- A stable sort may be filtered before or afterwards. -/
theorem filter (h : StableSort r l s) (p : α → Bool) : StableSort r (l.filter p) (s.filter p) where
  perm := h.perm.filter p
  sorted := h.sorted.filter p
  ties a := by rw [List.filter_comm, h.ties, List.filter_comm]

section Total
variable (trans : ∀ a b c, r a b → r b c → r a c) (total : ∀ a b, r a b ∨ r b a)
include trans total

/-- Merge sort is stable. -/
lemma mergeSort (l : List α) : StableSort r l (l.mergeSort fun a b => decide (r a b)) where
  perm := l.mergeSort_perm _
  sorted := by
    have sorted : (l.mergeSort fun a b => decide (r a b)).Pairwise fun a b => decide (r a b) = true :=
      List.pairwise_mergeSort (fun a b c => by simpa using trans a b c)
        (fun a b => by simpa using total a b) l
    simpa using sorted
  ties a := by
    -- the entries tied with `a` are in order already, so they are kept as they are
    have inOrder : (l.filter (tied r a)).Pairwise fun b c => decide (r b c) = true := by
      apply List.pairwise_of_forall_mem_list
      intro b hb c hc
      exact decide_eq_true (trans b a c (tied_iff.1 (List.mem_filter.1 hb).2).2
        (tied_iff.1 (List.mem_filter.1 hc).2).1)
    have kept : (l.filter (tied r a)).Sublist (l.mergeSort fun a b => decide (r a b)) :=
      List.sublist_mergeSort (fun a b c => by simpa using trans a b c)
        (fun a b => by simpa using total a b) inOrder List.filter_sublist
    have sub := kept.filter (tied r a)
    rw [List.filter_filter] at sub
    simp only [Bool.and_self] at sub
    exact (sub.eq_of_length ((l.mergeSort_perm _).filter _).length_eq.symm).symm

/-- Every stable sort computes what merge sort does. -/
theorem eq_mergeSort (h : StableSort r l s) : s = l.mergeSort fun a b => decide (r a b) :=
  h.unique (fun a => (total a a).elim id id) (mergeSort trans total l)

end Total

end StableSort
