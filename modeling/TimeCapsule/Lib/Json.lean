import TimeCapsule.Lib.Keyed

/-!
# Decoding JSON values

A value is decoded by a type, along the path that leads to it, and an error names the path of what
is wrong. A `Decodable` carries two facts about its decoder: it accepts just the values that
represent something (`exact`), and its errors are true of the value that they point to (`located`).

Decoders of records are put together from their fields (`Fields`), which look at the values of their
own names only. A `Record` is also written, and what is written is decoded again
(`Record.decode_encode`).
-/

inductive Json where
  | null
  | bool (value : Bool)
  | number (value : ℚ)
  | string (value : String)
  | array (elements : List Json)
  | object (entries : List (String × Json))

namespace Json

/-- A step into a value: a key of an object, or an index of an array. -/
inductive Step where
  | key (name : String)
  | index (i : Nat)
deriving DecidableEq

inductive Kind where
  | bool
  | number
  | string
  | array
  | object
deriving DecidableEq

def kind : Json → Option Kind
  | null => none
  | bool _ => some .bool
  | number _ => some .number
  | string _ => some .string
  | array _ => some .array
  | object _ => some .object

def child : Json → Step → Option Json
  | object entries, .key name => (Keyed.lookup Prod.fst name entries).map Prod.snd
  | array elements, .index i => elements[i]?
  | _, _ => none

/-- The value at a path. -/
def follow (j : Json) : List Step → Option Json
  | [] => some j
  | step :: path => (j.child step).bind fun next => next.follow path

lemma follow_concat {root j : Json} {path : List Step} (h : root.follow path = some j)
    (step : Step) : root.follow (path ++ [step]) = j.child step := by
  induction path generalizing root with
  | nil =>
    show (root.child step).bind some = _
    rw [Option.bind_fun_some, Option.some.inj h]
  | cons first path ih =>
    obtain ⟨next, into, rest⟩ := Option.bind_eq_some_iff.1 h
    show ((root.child first).bind fun next => next.follow (path ++ [step])) = _
    rw [into, Option.bind_some, ih rest]

lemma kind_eq_none_iff (j : Json) : j.kind = none ↔ j = null := by
  cases j <;> simp [kind]

/-! ## Errors -/

inductive DecodingError where
  | keyNotFound (name : String) (path : List Step)
  | valueNotFound (path : List Step)
  | typeMismatch (expected : Kind) (path : List Step)
  | dataCorrupted (path : List Step)
deriving DecidableEq

/-- The numbers that a 64-bit integer can be. -/
def IsInt64 (n : ℚ) : Prop := n.den = 1 ∧ -2 ^ 63 ≤ n.num ∧ n.num < 2 ^ 63

instance (n : ℚ) : Decidable (IsInt64 n) := inferInstanceAs (Decidable (_ ∧ _))

/-- What an error says of the value in which it occurred. -/
def DecodingError.Located (root : Json) : DecodingError → Prop
  | keyNotFound name path =>
    ∃ j, root.follow path = some j ∧ j.kind = some .object ∧ j.child (.key name) = none
  | valueNotFound path => root.follow path = some .null
  | typeMismatch expected path =>
    ∃ j, root.follow path = some j ∧ j.kind ≠ none ∧ j.kind ≠ some expected
  | dataCorrupted path => ∃ n, root.follow path = some (.number n) ∧ ¬ IsInt64 n

/-! ## Decoders -/

structure Decodable (α : Type) where
  Represents : Json → α → Prop
  decode : List Step → Json → Except DecodingError α
  exact : ∀ path j a, decode path j = .ok a ↔ Represents j a
  located : ∀ root path j error, root.follow path = some j → decode path j = .error error →
    error.Located root

/-- Why a value is not of a kind. -/
def mismatch (expected : Kind) (path : List Step) (j : Json) : DecodingError :=
  match j.kind with
  | none => .valueNotFound path
  | some _ => .typeMismatch expected path

lemma mismatch_located {root j : Json} {path : List Step} {expected : Kind}
    (at_path : root.follow path = some j) (other : j.kind ≠ some expected) :
    (mismatch expected path j).Located root := by
  unfold mismatch
  split
  · next none =>
    rw [(kind_eq_none_iff j).1 none] at at_path
    exact at_path
  · next found => exact ⟨j, at_path, by rw [found]; exact Option.some_ne_none _, other⟩

/-- The decoder of the values of one kind, for a decoder of what such a value holds. -/
def inside {α β : Type} (expected : Kind) (get : Json → Option β)
    (other : ∀ j, get j = none → j.kind ≠ some expected) (Holds : β → α → Prop)
    (inner : List Step → β → Except DecodingError α)
    (exact : ∀ path b a, inner path b = .ok a ↔ Holds b a)
    (located : ∀ root path j b error, root.follow path = some j → get j = some b →
      inner path b = .error error → error.Located root) : Decodable α where
  Represents j a := ∃ b, get j = some b ∧ Holds b a
  decode path j :=
    match get j with
    | some b => inner path b
    | none => .error (mismatch expected path j)
  exact path j a := by
    cases get j with
    | none => simp
    | some b => simp [exact]
  located root path j error at_path h := by
    cases e : get j with
    | none =>
      rw [e] at h
      cases h
      exact mismatch_located at_path (other j e)
    | some b =>
      rw [e] at h
      exact located root path j b error at_path e h

/-- The decoder of the values of one kind that hold what is wanted. -/
def ofKind {α : Type} (expected : Kind) (get : Json → Option α)
    (other : ∀ j, get j = none → j.kind ≠ some expected) : Decodable α :=
  inside expected get other Eq (fun _ a => .ok a) (by simp) (by simp)

def number? : Json → Option ℚ
  | number n => some n
  | _ => none

def string? : Json → Option String
  | string s => some s
  | _ => none

def array? : Json → Option (List Json)
  | array l => some l
  | _ => none

def object? : Json → Option Json
  | object l => some (object l)
  | _ => none

def decodeString : Decodable String :=
  ofKind .string string? (by intro j; cases j <;> simp [string?, kind])

/-- The decoder of numbers that are whole and that fit. -/
def decodeNumber (Fits : ℚ → Prop) [DecidablePred Fits] (fits : ∀ n, IsInt64 n → Fits n) :
    Decodable Int :=
  inside .number number? (by intro j; cases j <;> simp [number?, kind])
    (fun n i => Fits n ∧ n.num = i)
    (fun path n => if Fits n then .ok n.num else .error (.dataCorrupted path))
    (by
      intro path n i
      by_cases h : Fits n
      · simp [h]
      · simp [h])
    (by
      intro root path j n error at_path found failed
      by_cases h : Fits n
      · simp [h] at failed
      · rw [if_neg h] at failed
        cases failed
        cases j with
        | number m =>
          cases found
          exact ⟨_, at_path, fun small => h (fits _ small)⟩
        | _ => cases found)

/-- The decoder of integers of any size. -/
def decodeInteger : Decodable Int := decodeNumber (fun n => n.den = 1) fun _ small => small.1

/-! ## Lists -/

section Lists
variable {α : Type} (d : Decodable α)

/-- Decode the elements from an index on. -/
def decodeFrom (path : List Step) : Nat → List Json → Except DecodingError (List α)
  | _, [] => .ok []
  | i, j :: l => do
    let a ← d.decode (path ++ [.index i]) j
    let as ← decodeFrom path (i + 1) l
    .ok (a :: as)

lemma decodeFrom_exact (path : List Step) (i : Nat) (l : List Json) (as : List α) :
    decodeFrom d path i l = .ok as ↔ List.Forall₂ d.Represents l as := by
  induction l generalizing i as with
  | nil =>
    show Except.ok [] = Except.ok as ↔ _
    rw [List.forall₂_nil_left_iff]
    exact ⟨fun h => (Except.ok.inj h).symm, fun h => congrArg Except.ok h.symm⟩
  | cons j l ih =>
    rw [decodeFrom, List.forall₂_cons_left_iff]
    cases first : d.decode (path ++ [.index i]) j with
    | error e =>
      refine ⟨fun h => (nomatch h), ?_⟩
      rintro ⟨a, _, h, _⟩
      rw [(d.exact _ j a).2 h] at first
      cases first
    | ok a =>
      have head := (d.exact _ j a).1 first
      cases rest : decodeFrom d path (i + 1) l with
      | error e =>
        refine ⟨fun h => (nomatch h), ?_⟩
        rintro ⟨_, as, _, h, _⟩
        rw [(ih (i + 1) as).2 h] at rest
        cases rest
      | ok as' =>
        have tail := (ih (i + 1) as').1 rest
        constructor
        · rintro h
          cases h
          exact ⟨a, as', head, tail, rfl⟩
        · rintro ⟨b, bs, hb, hbs, rfl⟩
          have same : a = b := Except.ok.inj (first.symm.trans ((d.exact _ j b).2 hb))
          have same' : as' = bs := Except.ok.inj (rest.symm.trans ((ih (i + 1) bs).2 hbs))
          rw [same, same']
          rfl

lemma decodeFrom_located {root : Json} {path : List Step} {all : List Json}
    (at_path : root.follow path = some (.array all)) {i : Nat} {l : List Json}
    (suffix : all.drop i = l) {error : DecodingError}
    (h : decodeFrom d path i l = .error error) : error.Located root := by
  induction l generalizing i with
  | nil => cases h
  | cons j l ih =>
    have here : root.follow (path ++ [.index i]) = some j := by
      rw [follow_concat at_path]
      show all[i]? = some j
      rw [← List.head?_drop, suffix]
      rfl
    have later : all.drop (i + 1) = l := by
      rw [← List.tail_drop, suffix]
      rfl
    rw [decodeFrom] at h
    cases first : d.decode (path ++ [.index i]) j with
    | error e =>
      rw [first] at h
      cases h
      exact d.located root _ j error here first
    | ok a =>
      rw [first] at h
      cases rest : decodeFrom d path (i + 1) l with
      | error e =>
        rw [rest] at h
        cases h
        exact ih later rest
      | ok as =>
        rw [rest] at h
        cases h

/-- The decoder of arrays. -/
def decodeList : Decodable (List α) :=
  inside .array array? (by intro j; cases j <;> simp [array?, kind])
    (fun l as => List.Forall₂ d.Represents l as) (fun path l => decodeFrom d path 0 l)
    (fun path l as => decodeFrom_exact d path 0 l as)
    (by
      intro root path j l error at_path found h
      cases j with
      | array all =>
        cases found
        exact decodeFrom_located d at_path List.drop_zero h
      | _ => cases found)

end Lists

/-! ## Records -/

lemma map_eq_ok_iff {ε α β : Type} {make : α → β} {x : Except ε α} {b : β} :
    x.map make = .ok b ↔ ∃ a, x = .ok a ∧ make a = b := by
  cases x with
  | error e => simp [Except.map]
  | ok a => simp [Except.map]

lemma of_map_eq_error {ε α β : Type} {make : α → β} {x : Except ε α} {e : ε}
    (h : x.map make = .error e) : x = .error e := by
  cases x with
  | error e' =>
    cases h
    rfl
  | ok a => cases h

/-- A decoder of some fields of an object. It looks at the values of its own names only. -/
structure Fields (α : Type) where
  names : List String
  Represents : Json → α → Prop
  decode : List Step → Json → Except DecodingError α
  exact : ∀ path j a, decode path j = .ok a ↔ Represents j a
  located : ∀ root path j error, root.follow path = some j → j.kind = some .object →
    decode path j = .error error → error.Located root
  frame : ∀ j j' a, (∀ name ∈ names, j.child (.key name) = j'.child (.key name)) →
    Represents j a → Represents j' a

namespace Fields
variable {α β : Type}

/-- `decode(_:forKey:)`. -/
def required (name : String) (d : Decodable α) : Fields α where
  names := [name]
  Represents j a := ∃ v, j.child (.key name) = some v ∧ d.Represents v a
  decode path j :=
    match j.child (.key name) with
    | some v => d.decode (path ++ [.key name]) v
    | none => .error (.keyNotFound name path)
  exact path j a := by
    cases j.child (.key name) with
    | none => simp
    | some v => simp [d.exact]
  located root path j error at_path record h := by
    cases e : j.child (.key name) with
    | none =>
      rw [e] at h
      cases h
      exact ⟨j, at_path, record, e⟩
    | some v =>
      rw [e] at h
      exact d.located root _ v error ((follow_concat at_path _).trans e) h
  frame j j' a same h := by
    rw [same name List.mem_cons_self] at h
    exact h

/-- `decodeIfPresent(_:forKey:)`: a value that is absent or null is none. -/
def optional (name : String) (d : Decodable α) : Fields (Option α) where
  names := [name]
  Represents j o :=
    match o with
    | none => ∀ v, j.child (.key name) = some v → v.kind = none
    | some a => ∃ v, j.child (.key name) = some v ∧ v.kind ≠ none ∧ d.Represents v a
  decode path j :=
    match j.child (.key name) with
    | none => .ok none
    | some v => if v.kind = none then .ok none else (d.decode (path ++ [.key name]) v).map some
  exact path j o := by
    cases j.child (.key name) with
    | none => cases o <;> simp
    | some v =>
      by_cases null : v.kind = none
      · cases o <;> simp [null]
      · cases o <;> simp [null, map_eq_ok_iff, d.exact]
  located root path j error at_path record h := by
    cases e : j.child (.key name) with
    | none =>
      rw [e] at h
      cases h
    | some v =>
      simp only [e] at h
      by_cases null : v.kind = none
      · rw [if_pos null] at h
        cases h
      · rw [if_neg null] at h
        exact d.located root _ v error ((follow_concat at_path _).trans e) (of_map_eq_error h)
  frame j j' o same h := by
    rw [same name List.mem_cons_self] at h
    exact h

/-- One field after the other. -/
def and (f : Fields α) (g : Fields β) : Fields (α × β) where
  names := f.names ++ g.names
  Represents j p := f.Represents j p.1 ∧ g.Represents j p.2
  decode path j := do
    let a ← f.decode path j
    let b ← g.decode path j
    .ok (a, b)
  exact path j p := by
    rw [← f.exact path j p.1, ← g.exact path j p.2]
    cases f.decode path j with
    | error e => exact ⟨fun h => (nomatch h), fun h => (nomatch h.1)⟩
    | ok a =>
      cases g.decode path j with
      | error e => exact ⟨fun h => (nomatch h), fun h => (nomatch h.2)⟩
      | ok b =>
        show Except.ok (a, b) = Except.ok p ↔ _
        simp [Prod.ext_iff]
  located root path j error at_path record h := by
    cases first : f.decode path j with
    | error e =>
      rw [first] at h
      cases h
      exact f.located root path j error at_path record first
    | ok a =>
      rw [first] at h
      cases second : g.decode path j with
      | error e =>
        rw [second] at h
        cases h
        exact g.located root path j error at_path record second
      | ok b =>
        rw [second] at h
        cases h
  frame j j' p same h := by
    refine ⟨f.frame j j' p.1 ?_ h.1, g.frame j j' p.2 ?_ h.2⟩
    · exact fun name mem => same name (List.mem_append_left _ mem)
    · exact fun name mem => same name (List.mem_append_right _ mem)

/-- Make a value of what the fields hold. -/
def map (make : α → β) (f : Fields α) : Fields β where
  names := f.names
  Represents j b := ∃ a, f.Represents j a ∧ make a = b
  decode path j := (f.decode path j).map make
  exact path j b := by simp only [map_eq_ok_iff, f.exact]
  located root path j error at_path record h :=
    f.located root path j error at_path record (of_map_eq_error h)
  frame j j' b same := by
    rintro ⟨a, h, e⟩
    exact ⟨a, f.frame j j' a same h, e⟩

/-- The decoder of objects with the fields. -/
def decodable (f : Fields α) : Decodable α :=
  inside .object object? (by intro j; cases j <;> simp [object?, kind]) f.Represents f.decode f.exact
    (by
      intro root path j j' error at_path found h
      cases j with
      | object l =>
        cases found
        exact f.located root path _ error at_path rfl h
      | _ => cases found)

end Fields

/-! ## Writing -/

/-- A type whose values are also written. -/
structure Codable (α : Type) extends Decodable α where
  encode : α → Json
  represented : ∀ a, Represents (encode a) a

/-- What is written is decoded again. -/
lemma Codable.decode_encode {α : Type} (c : Codable α) (path : List Step) (a : α) :
    c.decode path (c.encode a) = .ok a := (c.exact _ _ _).2 (c.represented a)

def codableString : Codable String where
  toDecodable := decodeString
  encode := string
  represented s := ⟨s, rfl, rfl⟩

def codableInteger : Codable Int where
  toDecodable := decodeInteger
  encode i := number i
  represented i := ⟨i, rfl, Rat.den_intCast i, Rat.num_intCast i⟩

/-- A list of values that can be written. -/
def codableList {α : Type} (c : Codable α) : Codable (List α) where
  toDecodable := decodeList c.toDecodable
  encode l := array (l.map c.encode)
  represented l := by
    refine ⟨_, rfl, ?_⟩
    induction l with
    | nil => exact .nil
    | cons a l ih => exact .cons (c.represented a) ih

/-- Fields that are also written; only their own names are. -/
structure Record (α : Type) extends Fields α where
  entries : α → List (String × Json)
  own : ∀ a, ∀ entry ∈ entries a, entry.1 ∈ names
  represented : ∀ a, Represents (object (entries a)) a

namespace Record
variable {α β : Type}

/-- A field that is always written. -/
def required (name : String) (c : Codable α) : Record α where
  toFields := .required name c.toDecodable
  entries a := [(name, c.encode a)]
  own a entry mem := by
    cases List.mem_singleton.1 mem
    exact List.mem_cons_self
  represented a := by
    refine ⟨c.encode a, ?_, c.represented a⟩
    simp [child, Keyed.lookup]

/-- A field that is written if there is a value, which is not written as null. -/
def optional (name : String) (c : Codable α) (filled : ∀ a, (c.encode a).kind ≠ none) :
    Record (Option α) where
  toFields := .optional name c.toDecodable
  entries o := o.toList.map fun a => (name, c.encode a)
  own o entry mem := by
    obtain ⟨a, _, rfl⟩ := List.mem_map.1 mem
    exact List.mem_cons_self
  represented o := by
    cases o with
    | none => exact fun v h => (nomatch h)
    | some a =>
      refine ⟨c.encode a, ?_, filled a, c.represented a⟩
      simp [child, Keyed.lookup]

/-- Records of different names, one after the other. -/
def and (f : Record α) (g : Record β) (apart : ∀ name ∈ f.names, name ∉ g.names) :
    Record (α × β) where
  toFields := f.toFields.and g.toFields
  entries p := f.entries p.1 ++ g.entries p.2
  own p entry mem := by
    rcases List.mem_append.1 mem with mem | mem
    · exact List.mem_append_left _ (f.own p.1 entry mem)
    · exact List.mem_append_right _ (g.own p.2 entry mem)
  represented p := by
    have unknown : ∀ name ∈ f.names, Keyed.lookup Prod.fst name (g.entries p.2) = none := by
      intro name known
      rw [Keyed.lookup_eq_none_iff]
      intro mem
      obtain ⟨entry, written, rfl⟩ := List.mem_map.1 mem
      exact apart _ known (g.own p.2 entry written)
    have unknown' : ∀ name ∈ g.names, Keyed.lookup Prod.fst name (f.entries p.1) = none := by
      intro name known
      rw [Keyed.lookup_eq_none_iff]
      intro mem
      obtain ⟨entry, written, rfl⟩ := List.mem_map.1 mem
      exact apart _ (f.own p.1 entry written) known
    have both : ∀ name, Keyed.lookup Prod.fst name (f.entries p.1 ++ g.entries p.2) =
        (Keyed.lookup Prod.fst name (f.entries p.1)).or
          (Keyed.lookup Prod.fst name (g.entries p.2)) := fun name => List.find?_append
    constructor
    · apply f.frame _ _ _ _ (f.represented p.1)
      intro name known
      simp [child, both, unknown name known]
    · apply g.frame _ _ _ _ (g.represented p.2)
      intro name known
      simp [child, both, unknown' name known]

/-- Write a value as what the fields hold. -/
def map (make : α → β) (split : β → α) (inverse : ∀ b, make (split b) = b) (f : Record α) :
    Record β where
  toFields := f.toFields.map make
  entries b := f.entries (split b)
  own b := f.own (split b)
  represented b := ⟨split b, f.represented (split b), inverse b⟩

/-- The object with the fields. -/
def codable (f : Record α) : Codable α where
  toDecodable := f.toFields.decodable
  encode a := object (f.entries a)
  represented a := ⟨_, rfl, f.represented a⟩

end Record
end Json
