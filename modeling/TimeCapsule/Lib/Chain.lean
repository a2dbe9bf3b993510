import Mathlib

/-!
# Pages behind cursors

A list that is given out page by page. Each page has a cursor, and the answer for a cursor brings
the page, whether there are more, and the cursor to ask for next. `covers_answer` is the step of
every client that collects the pages: who holds the pages before a cursor and the answer for it
holds the pages before the next cursor, and all of them after the last answer. `position_next` says
that an answer leads one position further along the chain.
-/

namespace Chain

structure Page (κ α : Type*) where
  cursor : κ
  items : List α
deriving DecidableEq, Repr

structure Answer (κ α : Type*) where
  items : List α
  hasNext : Bool
  next : κ
deriving DecidableEq, Repr

variable {κ α : Type*} [DecidableEq κ]

/-- The answer for a cursor; the last page is followed by the cursor `last`. -/
def answer (last : κ) : List (Page κ α) → κ → Option (Answer κ α)
  | [], _ => none
  | p :: ps, c =>
    if p.cursor = c then some ⟨p.items, !ps.isEmpty, (ps.head?.map Page.cursor).getD last⟩
    else answer last ps c

/-- The entries of the pages before a cursor. -/
def before (c : κ) : List (Page κ α) → List α
  | [] => []
  | p :: ps => if p.cursor = c then [] else p.items ++ before c ps

/-- All cursors in order, the one behind the last page included. -/
def cursors (last : κ) (ps : List (Page κ α)) : List κ := ps.map Page.cursor ++ [last]

/-- The place of a cursor along the chain. -/
def position (last : κ) (ps : List (Page κ α)) (c : κ) : Nat := (cursors last ps).idxOf c

/-- The entries of all pages. -/
def all (ps : List (Page κ α)) : List α := ps.flatMap Page.items

variable {last c : κ} {p : Page κ α} {ps : List (Page κ α)} {r : Answer κ α} {x : α}

/-- No page is before the first. -/
lemma before_first (h : p.cursor = c) : before c (p :: ps) = [] := if_pos h

lemma mem_before_cons (h : p.cursor ≠ c) : x ∈ before c (p :: ps) ↔ x ∈ p.items ∨ x ∈ before c ps := by
  rw [before, if_neg h, List.mem_append]

omit [DecidableEq κ] in
lemma mem_all_cons : x ∈ all (p :: ps) ↔ x ∈ p.items ∨ x ∈ all ps := by
  simp [all]

/-- The pages before a cursor are some of the pages. -/
lemma mem_all_of_before (h : x ∈ before c ps) : x ∈ all ps := by
  induction ps with
  | nil => cases h
  | cons p ps ih =>
    by_cases hp : p.cursor = c
    · rw [before_first hp] at h
      cases h
    · exact mem_all_cons.2 (((mem_before_cons hp).1 h).imp id ih)

/-- An answer is one of the pages. -/
lemma mem_all_of_answer (h : answer last ps c = some r) (hx : x ∈ r.items) : x ∈ all ps := by
  induction ps with
  | nil => cases h
  | cons p ps ih =>
    rw [answer] at h
    split at h
    · cases h
      exact mem_all_cons.2 (.inl hx)
    · exact mem_all_cons.2 (.inr (ih h))

/-- The next cursor of an answer that is not the last is one of the cursors. -/
lemma next_mem (h : answer last ps c = some r) (more : r.hasNext) : r.next ∈ ps.map Page.cursor := by
  induction ps with
  | nil => cases h
  | cons p ps ih =>
    rw [answer] at h
    split at h
    · cases h
      cases ps with
      | nil => cases more
      | cons q qs => simp
    · exact .tail _ (ih h)

/-- Up to the next cursor there are the pages before this one, and this one. -/
lemma mem_before_next (distinct : (ps.map Page.cursor).Nodup) (h : answer last ps c = some r)
    (more : r.hasNext) (hx : x ∈ before r.next ps) : x ∈ before c ps ∨ x ∈ r.items := by
  induction ps with
  | nil => cases h
  | cons p ps ih =>
    -- the next cursor is that of a later page, so this page is before it
    obtain ⟨fresh, distinct⟩ := List.nodup_cons.1 distinct
    have step : p.cursor ≠ r.next → x ∈ p.items ∨ x ∈ before r.next ps := fun hp =>
      (mem_before_cons hp).1 hx
    rw [answer] at h
    split at h
    · cases h
      cases ps with
      | nil => cases more
      | cons q qs =>
        have hp : p.cursor ≠ q.cursor := fun e => fresh (by simp [e])
        rcases step hp with hx | hx
        · exact .inr hx
        · change x ∈ before q.cursor (q :: qs) at hx
          rw [before_first rfl] at hx
          cases hx
    · next hc =>
      have hp : p.cursor ≠ r.next := fun e => fresh (e ▸ next_mem h more)
      rw [mem_before_cons hc]
      rcases step hp with hx | hx
      · exact .inl (.inl hx)
      · exact (ih distinct h hx).imp_left .inr

/-- The last answer completes the pages before it. -/
lemma mem_all_of_last (h : answer last ps c = some r) (done : r.hasNext = false) (hx : x ∈ all ps) :
    x ∈ before c ps ∨ x ∈ r.items := by
  induction ps with
  | nil => cases h
  | cons p ps ih =>
    rw [answer] at h
    split at h
    · cases h
      cases ps with
      | nil => exact .inr (by simpa [all] using hx)
      | cons q qs => cases done
    · next hc =>
      rw [mem_before_cons hc]
      rcases mem_all_cons.1 hx with hx | hx
      · exact .inl (.inl hx)
      · exact (ih h hx).imp_left .inr

/-- Who holds the pages before a cursor and the answer for it holds the pages before the next
cursor, and all pages if the answer was the last. -/
theorem covers_answer (distinct : (ps.map Page.cursor).Nodup) (h : answer last ps c = some r)
    {l : List α} (old : ∀ x ∈ before c ps, x ∈ l) (new : ∀ x ∈ r.items, x ∈ l) :
    (∀ x ∈ before r.next ps, x ∈ l) ∧ (r.hasNext = false → ∀ x ∈ all ps, x ∈ l) := by
  have complete (done : r.hasNext = false) (x : α) (hx : x ∈ all ps) : x ∈ l :=
    (mem_all_of_last h done hx).elim (old x) (new x)
  refine ⟨fun x hx => ?_, complete⟩
  cases more : r.hasNext with
  | true => exact (mem_before_next distinct h more hx).elim (old x) (new x)
  | false => exact complete more x (mem_all_of_before hx)

omit [DecidableEq κ] in
lemma cursors_cons : cursors last (p :: ps) = p.cursor :: cursors last ps := rfl

omit [DecidableEq κ] in
/-- The first cursor of a chain, which is `last` if there are no pages. -/
lemma first_cursors : (cursors last ps).head? = some ((ps.head?.map Page.cursor).getD last) := by
  cases ps <;> rfl

/-- Both cursors of an answer are on the chain. -/
lemma mem_cursors_of_answer (h : answer last ps c = some r) :
    c ∈ cursors last ps ∧ r.next ∈ cursors last ps := by
  induction ps with
  | nil => cases h
  | cons p ps ih =>
    rw [answer] at h
    rw [cursors_cons]
    split at h
    · next hc =>
      cases h
      exact ⟨hc ▸ .head _, .tail _ (List.mem_of_mem_head? first_cursors)⟩
    · exact ⟨.tail _ (ih h).1, .tail _ (ih h).2⟩

/-- An answer leads one position further. -/
theorem position_next (distinct : (cursors last ps).Nodup) (h : answer last ps c = some r) :
    position last ps r.next = position last ps c + 1 := by
  induction ps with
  | nil => cases h
  | cons p ps ih =>
    rw [cursors_cons] at distinct
    obtain ⟨fresh, distinct⟩ := List.nodup_cons.1 distinct
    rw [answer] at h
    unfold position
    rw [cursors_cons]
    split at h
    · next hc =>
      subst hc
      cases h
      have first : (cursors last ps).head? = some ((ps.head?.map Page.cursor).getD last) :=
        first_cursors
      generalize (ps.head?.map Page.cursor).getD last = next at first ⊢
      obtain ⟨rest, hrest⟩ := List.head?_eq_some_iff.1 first
      rw [hrest] at fresh ⊢
      have ne : p.cursor ≠ next := fun e => fresh (e ▸ .head _)
      simp [List.idxOf_cons_ne _ ne]
    · next hc =>
      have ne : p.cursor ≠ r.next := fun e => fresh (e ▸ (mem_cursors_of_answer h).2)
      rw [List.idxOf_cons_ne _ hc, List.idxOf_cons_ne _ ne]
      exact congrArg Nat.succ (ih distinct h)

/-- Cursors of the chain are told apart by their positions. -/
lemma position_inj {d : κ} (hc : c ∈ cursors last ps) :
    position last ps c = position last ps d ↔ c = d :=
  List.idxOf_inj hc

end Chain
