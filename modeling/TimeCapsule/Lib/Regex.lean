import Mathlib

/-!
# Regular expressions

The operators of regular expressions that have a position-wise meaning: classes of characters, the
dot, the two anchors, sequence, star, bounded repetition and lookahead. `ends` computes, for a rest
of the input, all rests at which a match may end; `matchesWhole` asks whether one of them is empty.

A repetition of an expression is tried at most as often as there are characters left. This loses no
end, since a longer series repeats a position: `mem_ends_iff` says that the ends which are computed
are those of `Matches`, where a repetition has no bound.
-/

namespace Regex

/-- An item of a character class. -/
inductive ClassItem where
  | char (c : Char)
  | range (first last : Char)
  | decimal
deriving DecidableEq, Repr

/-- The zeros of the blocks of ten decimal digits that Unicode has. -/
def decimalZeros : List Nat :=
  [0x30, 0x660, 0x6F0, 0x7C0, 0x966, 0x9E6, 0xA66, 0xAE6, 0xB66, 0xBE6, 0xC66, 0xCE6, 0xD66, 0xDE6,
    0xE50, 0xED0, 0xF20, 0x1040, 0x1090, 0x17E0, 0x1810, 0x1946, 0x19D0, 0x1A80, 0x1A90, 0x1B50,
    0x1BB0, 0x1C40, 0x1C50, 0xA620, 0xA8D0, 0xA900, 0xA9D0, 0xA9F0, 0xAA50, 0xABF0, 0xFF10, 0x104A0,
    0x10D30, 0x11066, 0x110F0, 0x11136, 0x111D0, 0x112F0, 0x11450, 0x114D0, 0x11650, 0x116C0,
    0x11730, 0x118E0, 0x11950, 0x11C50, 0x11D50, 0x11DA0, 0x11F50, 0x16A60, 0x16AC0, 0x16B50,
    0x1D7CE, 0x1D7D8, 0x1D7E2, 0x1D7EC, 0x1D7F6, 0x1E140, 0x1E2F0, 0x1E4F0, 0x1E950, 0x1FBF0]

/-- A decimal digit of any script. -/
def isDecimalDigit (c : Char) : Bool :=
  decimalZeros.any fun first => decide (first ≤ c.toNat ∧ c.toNat < first + 10)

def isLineTerminator (c : Char) : Bool :=
  c.toNat ∈ [0x0A, 0x0B, 0x0C, 0x0D, 0x85, 0x2028, 0x2029]

def ClassItem.contains : ClassItem → Char → Bool
  | .char a, c => a == c
  | .range first last, c => decide (first.toNat ≤ c.toNat ∧ c.toNat ≤ last.toNat)
  | .decimal, c => isDecimalDigit c

end Regex

inductive Regex where
  | oneOf (items : List Regex.ClassItem)
  | dot
  | start
  | finish
  | seq (r s : Regex)
  | star (r : Regex)
  | atLeast (n : Nat) (r : Regex)
  | ahead (r : Regex)
deriving DecidableEq, Repr

namespace Regex

/-- The next character, if it meets a condition. -/
def one (p : Char → Bool) : List Char → List (List Char)
  | [] => []
  | c :: cs => if p c then [cs] else []

/-- Exactly `n` times. -/
def times (f : List Char → List (List Char)) : Nat → List Char → List (List Char)
  | 0, s => [s]
  | n + 1, s => (f s).flatMap (times f n)

/-- At most `n` times. -/
def upTo (f : List Char → List (List Char)) : Nat → List Char → List (List Char)
  | 0, s => [s]
  | n + 1, s => s :: (f s).flatMap (upTo f n)

/-- The rests of the input at which a match that begins at `s` may end. -/
def ends (input : List Char) : Regex → List Char → List (List Char)
  | oneOf items, s => one (fun c => items.any (·.contains c)) s
  | dot, s => one (fun c => !isLineTerminator c) s
  | start, s => if s.length = input.length then [s] else []
  | finish, s =>
    -- at the end, or before a line terminator that is the end
    match s with
    | [] => [s]
    | [c] => if isLineTerminator c then [s] else []
    | _ => if s = ['\r', '\n'] then [s] else []
  | seq r t, s => (ends input r s).flatMap (ends input t)
  | star r, s => upTo (ends input r) s.length s
  | atLeast n r, s => (times (ends input r) n s).flatMap fun s => upTo (ends input r) s.length s
  | ahead r, s => if (ends input r s).isEmpty then [] else [s]

/-- The expression matches the whole string. -/
def matchesWhole (r : Regex) (p : String) : Bool := decide ([] ∈ r.ends p.toList p.toList)

/-! ## The meaning of an expression -/

/-- From a rest of the input the expression matches up to another rest. -/
inductive Matches (input : List Char) : Regex → List Char → List Char → Prop where
  | oneOf {items c s} :
    items.any (·.contains c) = true →
    Matches input (.oneOf items) (c :: s) s
  | dot {c s} :
    isLineTerminator c = false →
    Matches input .dot (c :: s) s
  | start {s} :
    s.length = input.length →
    Matches input .start s s
  | finish {s} :
    s = [] ∨ (∃ c, isLineTerminator c = true ∧ s = [c]) ∨ s = ['\r', '\n'] →
    Matches input .finish s s
  | seq {r r' s t u} :
    Matches input r s t →
    Matches input r' t u →
    Matches input (.seq r r') s u
  | starNil {r s} :
    Matches input (.star r) s s
  | starCons {r s t u} :
    Matches input r s t →
    Matches input (.star r) t u →
    Matches input (.star r) s u
  | atLeastZero {r s t} :
    Matches input (.star r) s t →
    Matches input (.atLeast 0 r) s t
  | atLeastSucc {n r s t u} :
    Matches input r s t →
    Matches input (.atLeast n r) t u →
    Matches input (.atLeast (n + 1) r) s u
  | ahead {r s t} :
    Matches input r s t →
    Matches input (.ahead r) s s

section Meaning
variable {input s t u : List Char} {r : Regex} {f : List Char → List (List Char)} {n m : Nat}

/-- A match ends at a rest of where it begins. -/
lemma Matches.suffix (h : Matches input r s t) : t <:+ s := by
  induction h with
  | oneOf | dot => exact List.suffix_cons _ _
  | start | finish | starNil | ahead => exact List.suffix_rfl
  | seq _ _ ih ih' | starCons _ _ ih ih' | atLeastSucc _ _ ih ih' => exact ih'.trans ih
  | atLeastZero _ ih => exact ih

lemma mem_one {p : Char → Bool} : t ∈ one p s ↔ ∃ c, p c = true ∧ s = c :: t := by
  cases s with
  | nil => simp [one]
  | cons c s =>
    cases h : p c with
    | false =>
      rw [one, h]
      refine iff_of_false List.not_mem_nil ?_
      rintro ⟨d, hd, e⟩
      cases e
      simp [h] at hd
    | true =>
      rw [one, h, if_pos rfl, List.mem_singleton]
      constructor
      · rintro rfl
        exact ⟨c, h, rfl⟩
      · rintro ⟨d, _, e⟩
        cases e
        rfl

/-- The end is found where it is, and before a line terminator that is the end. -/
lemma mem_ends_finish : t ∈ ends input .finish s ↔
    t = s ∧ (s = [] ∨ (∃ c, isLineTerminator c = true ∧ s = [c]) ∨ s = ['\r', '\n']) := by
  rcases s with _ | ⟨c, _ | ⟨d, cs⟩⟩
  · simp [ends]
  · cases h : isLineTerminator c <;> simp [ends, h]
  · by_cases h : c :: d :: cs = ['\r', '\n']
    · simp [ends, h]
    · simp [ends, h]

/-- Nothing is lost by a higher bound. -/
lemma upTo_mono (le : n ≤ m) (h : t ∈ upTo f n s) : t ∈ upTo f m s := by
  induction n generalizing m s with
  | zero =>
    cases List.mem_singleton.1 h
    cases m <;> exact List.mem_cons_self
  | succ n ih =>
    obtain ⟨m, rfl⟩ : ∃ k, m = k + 1 := ⟨m - 1, by omega⟩
    apply (List.mem_cons.1 h).elim
    · rintro rfl
      exact List.mem_cons_self
    · intro h
      obtain ⟨u, hu, h⟩ := List.mem_flatMap.1 h
      exact List.mem_cons_of_mem _ (List.mem_flatMap.2 ⟨u, hu, ih (by omega) h⟩)

/-- What is found by repeating is a series of matches. -/
lemma matches_of_upTo (sound : ∀ s t, t ∈ f s → Matches input r s t) (h : t ∈ upTo f n s) :
    Matches input (.star r) s t := by
  induction n generalizing s with
  | zero =>
    cases List.mem_singleton.1 h
    exact .starNil
  | succ n ih =>
    apply (List.mem_cons.1 h).elim
    · rintro rfl
      exact .starNil
    · intro h
      obtain ⟨u, hu, h⟩ := List.mem_flatMap.1 h
      exact .starCons (sound s u hu) (ih h)

/-- What is found by repeating a number of times and then on is a series of at least that many. -/
lemma matches_of_times (sound : ∀ s t, t ∈ f s → Matches input r s t) (hu : u ∈ times f n s)
    (h : t ∈ upTo f u.length u) : Matches input (.atLeast n r) s t := by
  induction n generalizing s with
  | zero =>
    cases List.mem_singleton.1 hu
    exact .atLeastZero (matches_of_upTo sound h)
  | succ n ih =>
    obtain ⟨v, hv, hu⟩ := List.mem_flatMap.1 hu
    exact .atLeastSucc (sound s v hv) (ih hu)

/-- What is found is a match. -/
lemma matches_of_mem_ends (h : t ∈ ends input r s) : Matches input r s t := by
  induction r generalizing s t with
  | oneOf items =>
    obtain ⟨c, hc, rfl⟩ := mem_one.1 h
    exact .oneOf hc
  | dot =>
    obtain ⟨c, hc, rfl⟩ := mem_one.1 h
    exact .dot (by simpa using hc)
  | start =>
    rw [ends] at h
    split at h
    · next atStart =>
      cases List.mem_singleton.1 h
      exact .start atStart
    · cases h
  | finish =>
    obtain ⟨rfl, last⟩ := mem_ends_finish.1 h
    exact .finish last
  | seq r r' ih ih' =>
    obtain ⟨u, hu, h⟩ := List.mem_flatMap.1 h
    exact .seq (ih hu) (ih' h)
  | star r ih => exact matches_of_upTo (fun s t => ih) h
  | atLeast n r ih =>
    obtain ⟨u, hu, h⟩ := List.mem_flatMap.1 h
    exact matches_of_times (fun s t => ih) hu h
  | ahead r ih =>
    rw [ends] at h
    split at h
    · cases h
    · next some =>
      cases List.mem_singleton.1 h
      obtain ⟨u, hu⟩ := List.exists_mem_of_ne_nil _ (mt List.isEmpty_iff.2 some)
      exact .ahead (ih hu)

/-- One more match in front of a repetition stays within its bound: either it consumes a character,
or it ends where it began. -/
lemma mem_upTo_cons (suffix : t <:+ s) (ht : t ∈ f s) (hu : u ∈ upTo f t.length t) :
    u ∈ upTo f s.length s := by
  by_cases same : t.length = s.length
  · rwa [suffix.eq_of_length same] at hu
  · have shorter : t.length < s.length := lt_of_le_of_ne suffix.length_le same
    obtain ⟨n, hn⟩ : ∃ n, s.length = n + 1 := ⟨s.length - 1, by omega⟩
    rw [hn]
    exact List.mem_cons_of_mem _ (List.mem_flatMap.2 ⟨t, ht, upTo_mono (by omega) hu⟩)

/-- Every match is found. -/
lemma Matches.mem_ends (h : Matches input r s t) : t ∈ ends input r s := by
  induction h with
  | oneOf hc => exact mem_one.2 ⟨_, hc, rfl⟩
  | dot hc => exact mem_one.2 ⟨_, by simpa using hc, rfl⟩
  | start atStart => simp [ends, atStart]
  | finish last => exact mem_ends_finish.2 ⟨rfl, last⟩
  | seq _ _ ih ih' => exact List.mem_flatMap.2 ⟨_, ih, ih'⟩
  | @starNil r s => exact upTo_mono (Nat.zero_le s.length) (List.mem_singleton.2 rfl)
  | starCons first _ ih ih' => exact mem_upTo_cons first.suffix ih ih'
  | atLeastZero _ ih => exact List.mem_flatMap.2 ⟨_, List.mem_singleton.2 rfl, ih⟩
  | atLeastSucc _ _ ih ih' =>
    obtain ⟨v, hv, hu⟩ := List.mem_flatMap.1 ih'
    exact List.mem_flatMap.2 ⟨v, List.mem_flatMap.2 ⟨_, ih, hv⟩, hu⟩
  | ahead _ ih =>
    have some : (ends input _ _).isEmpty = false := List.isEmpty_eq_false_iff_exists_mem.2 ⟨_, ih⟩
    simp [ends, some]

/-- The ends that are computed are the ends of the matches. -/
theorem mem_ends_iff : t ∈ ends input r s ↔ Matches input r s t :=
  ⟨matches_of_mem_ends, Matches.mem_ends⟩

/-- A sequence matches one part after the other. -/
lemma matches_seq_iff {r' : Regex} :
    Matches input (.seq r r') s u ↔ ∃ t, Matches input r s t ∧ Matches input r' t u := by
  constructor
  · intro h
    cases h with
    | seq first second => exact ⟨_, first, second⟩
  · rintro ⟨t, first, second⟩
    exact .seq first second

end Meaning

/-! ## Repeated characters -/

section Characters
variable {input s t : List Char} {r : Regex} {p : Char → Bool} {n : Nat}

/-- The expression matches one character that meets a condition. -/
def ReadsOne (input : List Char) (r : Regex) (p : Char → Bool) : Prop :=
  ∀ s t, Matches input r s t ↔ ∃ c, p c = true ∧ s = c :: t

lemma readsOne_oneOf (items : List ClassItem) :
    ReadsOne input (.oneOf items) fun c => items.any (·.contains c) := by
  intro s t
  rw [← mem_ends_iff, ends, mem_one]

lemma readsOne_dot : ReadsOne input .dot fun c => !isLineTerminator c := by
  intro s t
  rw [← mem_ends_iff, ends, mem_one]

/-- A star over one character matches any number of them. -/
lemma ReadsOne.star (one : ReadsOne input r p) :
    Matches input (.star r) s t ↔ ∃ u, s = u ++ t ∧ ∀ c ∈ u, p c = true := by
  constructor
  · intro h
    generalize e : Regex.star r = r' at h
    induction h with
    | starNil => exact ⟨[], rfl, List.forall_mem_nil _⟩
    | starCons first _ _ ih =>
      cases e
      obtain ⟨c, hc, rfl⟩ := (one _ _).1 first
      obtain ⟨u, rfl, hu⟩ := ih rfl
      exact ⟨c :: u, rfl, List.forall_mem_cons.2 ⟨hc, hu⟩⟩
    | _ => cases e
  · rintro ⟨u, rfl, hu⟩
    induction u with
    | nil => exact .starNil
    | cons c u ih =>
      obtain ⟨hc, hu⟩ := List.forall_mem_cons.1 hu
      exact .starCons ((one _ _).2 ⟨c, hc, rfl⟩) (ih hu)

/-- A bounded repetition of one character matches at least so many of them. -/
lemma ReadsOne.atLeast (one : ReadsOne input r p) : Matches input (.atLeast n r) s t ↔
    ∃ u, s = u ++ t ∧ n ≤ u.length ∧ ∀ c ∈ u, p c = true := by
  induction n generalizing s with
  | zero =>
    constructor
    · intro h
      cases h with
      | atLeastZero h =>
        obtain ⟨u, e, hu⟩ := one.star.1 h
        exact ⟨u, e, Nat.zero_le _, hu⟩
    · rintro ⟨u, e, _, hu⟩
      exact .atLeastZero (one.star.2 ⟨u, e, hu⟩)
  | succ n ih =>
    constructor
    · intro h
      cases h with
      | atLeastSucc first h =>
        obtain ⟨c, hc, rfl⟩ := (one _ _).1 first
        obtain ⟨u, rfl, le, hu⟩ := ih.1 h
        exact ⟨c :: u, rfl, Nat.succ_le_succ le, List.forall_mem_cons.2 ⟨hc, hu⟩⟩
    · rintro ⟨u, rfl, le, hu⟩
      cases u with
      | nil => cases le
      | cons c u =>
        obtain ⟨hc, hu⟩ := List.forall_mem_cons.1 hu
        exact .atLeastSucc ((one _ _).2 ⟨c, hc, rfl⟩) (ih.2 ⟨u, rfl, Nat.le_of_succ_le_succ le, hu⟩)

/-- Looking ahead for a character finds it behind characters that are no line terminators. -/
lemma ReadsOne.lookahead (one : ReadsOne input r p) :
    Matches input (.ahead (.seq (.star .dot) r)) s t ↔ t = s ∧
      ∃ u c v, s = u ++ c :: v ∧ (∀ d ∈ u, isLineTerminator d = false) ∧ p c = true := by
  constructor
  · intro h
    cases h with
    | ahead h =>
      obtain ⟨_, before, here⟩ := matches_seq_iff.1 h
      obtain ⟨u, rfl, hu⟩ := readsOne_dot.star.1 before
      obtain ⟨c, hc, rfl⟩ := (one _ _).1 here
      exact ⟨rfl, u, c, _, rfl, fun d hd => by simpa using hu d hd, hc⟩
  · rintro ⟨rfl, u, c, v, rfl, hu, hc⟩
    have before : Matches input (.star .dot) (u ++ c :: v) (c :: v) :=
      readsOne_dot.star.2 ⟨u, rfl, fun d hd => by simpa using hu d hd⟩
    exact .ahead (.seq before ((one _ _).2 ⟨c, hc, rfl⟩))

end Characters

/-- An expression matches a string as a whole just when it matches from its beginning to its end. -/
theorem matchesWhole_iff {r : Regex} {p : String} :
    r.matchesWhole p = true ↔ Matches p.toList r p.toList [] := by
  rw [matchesWhole, decide_eq_true_iff, mem_ends_iff]

end Regex
