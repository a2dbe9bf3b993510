import Mathlib

/-!
# Texts between delimiters

A delimiter whose first letter does not occur again in it cannot overlap itself. So a text is cut at
its first occurrence (`cut`), and what is cut off is the text that was put before the delimiter just
when the delimiter does not occur in that text (`cut_append`, `length_of_cut`).

`join` writes blocks between delimiters, each a head that says itself where it ends and a body, with
a mark after each delimiter that says whether a block follows; `blocks` reads them. The blocks are
read back just when no body holds the delimiter (`blocks_join_iff`).
-/

/-- A delimiter: its first letter occurs only first. -/
structure Delimiter (α : Type*) where
  first : α
  rest : List α
  fresh : first ∉ rest

namespace Delimiter
variable {α : Type*}

def letters (d : Delimiter α) : List α := d.first :: d.rest

lemma letters_ne_nil (d : Delimiter α) : d.letters ≠ [] := List.cons_ne_nil _ _

/-- A text without the first letter does not hold the delimiter. -/
lemma not_infix {d : Delimiter α} {x : List α} (free : d.first ∉ x) : ¬ d.letters <:+: x :=
  fun held => free (held.subset List.mem_cons_self)

/-- An occurrence that starts in `x` lies in `x`, if the delimiter follows `x`. -/
lemma prefix_of_longer {d : Delimiter α} {x z : List α} (nonempty : x ≠ [])
    (start : d.letters <+: x ++ d.letters ++ z) : d.letters <+: x := by
  by_cases le : d.letters.length ≤ x.length
  · rw [List.append_assoc] at start
    exact List.prefix_of_prefix_length_le start (List.prefix_append _ _) le
  · -- otherwise the first letter of the delimiter behind `x` is a later letter of it
    exfalso
    obtain ⟨u, e⟩ := start
    have pos : 0 < x.length := List.length_pos_iff.2 nonempty
    have lt : x.length < d.letters.length := by omega
    have here : (d.letters ++ u)[x.length]? = some d.first := by
      rw [e, List.append_assoc, List.getElem?_append_right (Nat.le_refl _), Nat.sub_self]
      rfl
    rw [List.getElem?_append_left lt] at here
    obtain ⟨k, hk⟩ : ∃ k, x.length = k + 1 := ⟨x.length - 1, by omega⟩
    rw [hk, letters, List.getElem?_cons_succ] at here
    exact d.fresh (List.mem_of_getElem? here)

variable [DecidableEq α]

/-- What stands before the first occurrence of the delimiter, and what stands after it. -/
def cut (d : Delimiter α) : List α → Option (List α × List α)
  | [] => none
  | a :: l =>
    if d.letters <+: a :: l then some ([], (a :: l).drop d.letters.length)
    else (d.cut l).map fun found => (a :: found.1, found.2)

/-- What is cut is put together again. -/
lemma of_cut {d : Delimiter α} {l x y : List α} (h : d.cut l = some (x, y)) :
    l = x ++ d.letters ++ y := by
  induction l generalizing x with
  | nil => cases h
  | cons a l ih =>
    rw [cut] at h
    split at h
    · next start =>
      cases h
      obtain ⟨z, e⟩ := start
      rw [← e]
      simp
    · obtain ⟨found, hf, e⟩ := Option.map_eq_some_iff.1 h
      cases e
      rw [ih hf]
      rfl

/-- What is left is shorter. -/
lemma length_lt_of_cut {d : Delimiter α} {l x y : List α} (h : d.cut l = some (x, y)) :
    y.length < l.length := by
  rw [of_cut h, letters]
  simp only [List.length_append, List.length_cons]
  omega

/-- Before the first occurrence nothing is missed. -/
lemma cut_append {d : Delimiter α} {x : List α} (free : ¬ d.letters <:+: x) (y : List α) :
    d.cut (x ++ d.letters ++ y) = some (x, y) := by
  induction x with
  | nil =>
    show d.cut (d.first :: (d.rest ++ y)) = _
    have start : d.letters <+: d.first :: (d.rest ++ y) := List.prefix_append _ _
    rw [cut, if_pos start]
    simp [letters]
  | cons a x ih =>
    have start : ¬ d.letters <+: a :: (x ++ d.letters ++ y) := by
      intro start
      exact free (prefix_of_longer (List.cons_ne_nil a x) start).isInfix
    have later : ¬ d.letters <:+: x := fun h => free (List.infix_cons h)
    show d.cut (a :: (x ++ d.letters ++ y)) = _
    rw [cut, if_neg start, ih later]
    rfl

/-- An occurrence is found, and not behind the one that is known. -/
lemma cut_of_infix {d : Delimiter α} {x : List α} (held : d.letters <:+: x) (y : List α) :
    ∃ u v, d.cut (x ++ y) = some (u, v) ∧ u.length < x.length := by
  induction x with
  | nil => exact absurd (List.infix_nil.1 held) d.letters_ne_nil
  | cons a x ih =>
    show ∃ u v, d.cut (a :: (x ++ y)) = some (u, v) ∧ _
    rw [cut]
    split
    · exact ⟨[], _, rfl, Nat.succ_pos _⟩
    · next start =>
      rcases List.infix_cons_iff.1 held with head | later
      · exact absurd (head.trans (List.prefix_append (a :: x) y)) start
      · obtain ⟨u, v, e, lt⟩ := ih later
        rw [e]
        exact ⟨a :: u, v, rfl, Nat.succ_lt_succ lt⟩

/-! ## Blocks -/

section Blocks
variable {η : Type*} (d : Delimiter α) (go stop : List α)

/-- What follows a delimiter: a block after `go`, which is a head and a body, or the end after
`stop`. -/
def join (write : η → List α) : List (η × List α) → List α
  | [] => stop
  | (head, body) :: items => go ++ write head ++ body ++ d.letters ++ join write items

/-- Read the blocks; what follows `stop` is not looked at. -/
def blocks (read : List α → Option (η × List α)) (l : List α) : Option (List (η × List α)) :=
  if stop <+: l then some []
  else if go <+: l then
    match read (l.drop go.length) with
    | some (head, l') =>
      match d.cut l' with
      | some (body, rest) =>
        if rest.length < l.length then (blocks read rest).map ((head, body) :: ·) else none
      | none => none
    | none => none
  else none
termination_by l.length

variable {d go stop} {write : η → List α} {read : List α → Option (η × List α)}

lemma blocks_stop (rest : List α) : d.blocks go stop read (stop ++ rest) = some [] := by
  rw [blocks, if_pos (List.prefix_append stop rest)]

/-- A block is cut off, and the rest is read. -/
lemma blocks_go {head : η} {l body rest : List α} (apart : ∀ l, ¬ stop <+: go ++ l)
    (law : ∀ l, read (write head ++ l) = some (head, l)) (h : d.cut l = some (body, rest)) :
    d.blocks go stop read (go ++ (write head ++ l)) =
      (d.blocks go stop read rest).map ((head, body) :: ·) := by
  have shorter : rest.length < (go ++ (write head ++ l)).length := by
    have lt := length_lt_of_cut h
    simp only [List.length_append]
    omega
  rw [blocks, if_neg (apart _), if_pos (List.prefix_append go _), List.drop_left, law]
  simp only [h, if_pos shorter]

omit [DecidableEq α] in
/-- What is written for a block and those after it. -/
lemma join_cons (head : η) (body : List α) (items : List (η × List α)) (rest : List α) :
    d.join go stop write ((head, body) :: items) ++ rest =
      go ++ (write head ++ (body ++ (d.letters ++ (d.join go stop write items ++ rest)))) := by
  simp [join]

/-- A first body that holds the delimiter is read as a shorter one. -/
lemma blocks_held {head : η} {body : List α} {items : List (η × List α)}
    (apart : ∀ l, ¬ stop <+: go ++ l) (law : ∀ l, read (write head ++ l) = some (head, l))
    (held : d.letters <:+: body) (rest : List α) {ys : List (η × List α)}
    (back : d.blocks go stop read (d.join go stop write ((head, body) :: items) ++ rest) = some ys) :
    ∃ u ys', ys = (head, u) :: ys' ∧ u.length < body.length := by
  obtain ⟨u, v, e, lt⟩ := cut_of_infix held (d.letters ++ (d.join go stop write items ++ rest))
  rw [join_cons, blocks_go apart law e] at back
  obtain ⟨ys', _, e⟩ := Option.map_eq_some_iff.1 back
  exact ⟨u, ys', e.symm, lt⟩

/-- The blocks are read back just when none of their bodies holds the delimiter. -/
theorem blocks_join_iff (apart : ∀ l, ¬ stop <+: go ++ l) {items : List (η × List α)}
    (law : ∀ item ∈ items, ∀ l, read (write item.1 ++ l) = some (item.1, l)) (rest : List α) :
    d.blocks go stop read (d.join go stop write items ++ rest) = some items ↔
      ∀ item ∈ items, ¬ d.letters <:+: item.2 := by
  induction items with
  | nil => simp [join, blocks_stop]
  | cons item items ih =>
    obtain ⟨head, body⟩ := item
    have laws := List.forall_mem_cons.1 law
    rw [List.forall_mem_cons, ← ih laws.2]
    by_cases held : d.letters <:+: body
    · apply iff_of_false
      · intro back
        obtain ⟨u, ys, e, lt⟩ := blocks_held apart laws.1 held rest back
        cases e
        exact absurd lt (Nat.lt_irrefl _)
      · exact fun both => both.1 held
    · have cut := cut_append held (d.join go stop write items ++ rest)
      rw [List.append_assoc] at cut
      rw [join_cons, blocks_go apart laws.1 cut, Option.map_eq_some_iff]
      constructor
      · rintro ⟨ys, back, e⟩
        cases e
        exact ⟨held, back⟩
      · exact fun both => ⟨items, both.2, rfl⟩

end Blocks
end Delimiter
