import TimeCapsule.Lib.Keyed

/-!
# HTTP headers

`HTTPHeaders` of Alamofire's `Core/HTTPHeaders.swift`: a list of headers that is searched without
regard to case. Two headers never have the same name, which the structure carries as a field.

Header names are ASCII texts, so `lowercased` is what `lowercased()` gives for these.
-/

namespace TimeCapsule.Foundation

structure HTTPHeader where
  name : String
  value : String
deriving DecidableEq, Repr

/-- `lowercased()`, for an ASCII text. -/
def lowercased (name : String) : String := String.ofList (name.toList.map Char.toLower)

namespace HTTPHeader

/-- The name as headers are compared by it. -/
def lowercasedName (header : HTTPHeader) : String := lowercased header.name

def contentDisposition (value : String) : HTTPHeader := ⟨"Content-Disposition", value⟩

def contentType (value : String) : HTTPHeader := ⟨"Content-Type", value⟩

end HTTPHeader

/-- Headers in their order, no two of one name. -/
structure HTTPHeaders where
  headers : List HTTPHeader
  distinct : (headers.map HTTPHeader.lowercasedName).Nodup

namespace HTTPHeaders

def empty : HTTPHeaders := ⟨[], List.nodup_nil⟩

/-- A header of the same name is replaced where it stands; a new one is appended. -/
def update (headers : HTTPHeaders) (header : HTTPHeader) : HTTPHeaders :=
  ⟨Keyed.put HTTPHeader.lowercasedName header headers.headers, Keyed.nodup_put headers.distinct⟩

def add (headers : HTTPHeaders) (header : HTTPHeader) : HTTPHeaders := headers.update header

def remove (headers : HTTPHeaders) (name : String) : HTTPHeaders :=
  ⟨Keyed.erase HTTPHeader.lowercasedName (lowercased name) headers.headers,
    Keyed.nodup_erase headers.distinct⟩

/-- `value(for:)`. -/
def value (headers : HTTPHeaders) (name : String) : Option String :=
  (Keyed.lookup HTTPHeader.lowercasedName (lowercased name) headers.headers).map (·.value)

/-- The setter of `headers[name]`. -/
def set (headers : HTTPHeaders) (name : String) : Option String → HTTPHeaders
  | some value => headers.update ⟨name, value⟩
  | none => headers.remove name

/-- `init(dictionaryLiteral:)`. -/
def ofLiteral (elements : List (String × String)) : HTTPHeaders :=
  elements.foldl (fun headers element => headers.update ⟨element.1, element.2⟩) empty

/-- What is updated is read back, and nothing else changes. -/
lemma value_update (headers : HTTPHeaders) (header : HTTPHeader) (name : String) :
    (headers.update header).value name =
      if lowercased name = lowercased header.name then some header.value
      else headers.value name := by
  show (Keyed.lookup _ _ (Keyed.put _ _ _)).map _ = _
  rw [Keyed.lookup_put, HTTPHeader.lowercasedName]
  by_cases e : lowercased name = lowercased header.name
  · rw [if_pos e, if_pos e, Option.map_some]
  · rw [if_neg e, if_neg e, value]

/-- What is removed is gone, and nothing else changes. -/
lemma value_remove (headers : HTTPHeaders) (name name' : String) :
    (headers.remove name).value name' =
      if lowercased name' = lowercased name then none else headers.value name' := by
  show (Keyed.lookup _ _ (Keyed.erase _ _ _)).map _ = _
  rw [Keyed.lookup_erase headers.distinct]
  by_cases e : lowercased name' = lowercased name
  · rw [if_pos e, if_pos e, Option.map_none]
  · rw [if_neg e, if_neg e, value]

/-- What is set is read back, and nothing else changes. -/
lemma value_set (headers : HTTPHeaders) (name : String) (new : Option String) (name' : String) :
    (headers.set name new).value name' =
      if lowercased name' = lowercased name then new else headers.value name' := by
  cases new with
  | none => exact value_remove headers name name'
  | some value => exact value_update headers ⟨name, value⟩ name'

/-- A name of a literal is found with the last value that the literal gives it. -/
lemma value_ofLiteral (elements : List (String × String)) (name : String) :
    (ofLiteral elements).value name =
      (elements.reverse.find? fun element =>
        lowercased name = lowercased element.1).map (·.2) := by
  induction elements using List.reverseRecOn with
  | nil => rfl
  | append_singleton elements element ih =>
    have last : ofLiteral (elements ++ [element]) =
        (ofLiteral elements).update ⟨element.1, element.2⟩ := by
      rw [ofLiteral, List.foldl_append]
      rfl
    rw [last, value_update, ih, List.reverse_append, List.reverse_singleton,
      List.singleton_append, List.find?_cons]
    by_cases e : lowercased name = lowercased element.1
    · simp [e]
    · simp [e]

/-- A name of a literal that does not come again behind it is found with its value. -/
lemma value_ofLiteral_last {name key : String} (value : String) (first last : List (String × String))
    (same : lowercased name = lowercased key)
    (free : ∀ element ∈ last, ¬ lowercased name = lowercased element.1) :
    (ofLiteral (first ++ (key, value) :: last)).value name = some value := by
  have skip : last.reverse.find?
      (fun element => lowercased name = lowercased element.1) = none := by
    rw [List.find?_eq_none]
    intro element mem
    simp [free element (List.mem_reverse.1 mem)]
  rw [value_ofLiteral, List.reverse_append, List.reverse_cons, List.append_assoc,
    List.find?_append, skip, Option.none_or]
  simp [same]

end HTTPHeaders
end TimeCapsule.Foundation
