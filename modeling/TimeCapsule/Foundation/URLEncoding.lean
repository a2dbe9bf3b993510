import TimeCapsule.Lib.PercentEncoding

/-!
# Parameters in a URL

`URLEncoding` of Alamofire's `Core/ParameterEncoding.swift`, with its default array and Bool
encodings: nested parameters become pairs of a bracketed key and a text, sorted by their first key,
escaped, and joined by `=` and `&`.

`readQuery` is what a server does with such a query, whether or not it reads `+` as a blank. It
finds the pairs that the parameters stand for, whatever their keys and texts are (`readQuery_query`).
-/

namespace TimeCapsule.Foundation

/-- A parameter value; a number is the text that its interpolation gives. -/
inductive Parameter where
  | dictionary (entries : List (String × Parameter))
  | array (values : List Parameter)
  | bool (value : Bool)
  | text (value : String)

/-- `Parameters`: the entries of a dictionary. -/
abbrev Parameters := List (String × Parameter)

/-- `CharacterSet.urlQueryAllowed`. -/
def urlQueryAllowed (c : Char) : Bool :=
  c.isAlphanum || "!$&'()*+,-./:;=?@_~".toList.contains c

/-- `CharacterSet.afURLQueryAllowed`. -/
def afURLQueryAllowed (c : Char) : Bool :=
  let generalDelimitersToEncode := ":#[]@"
  let subDelimitersToEncode := "!$&'()*+,;="
  urlQueryAllowed c && !(generalDelimitersToEncode ++ subDelimitersToEncode).toList.contains c

namespace URLEncoding

def escape (string : String) : String :=
  String.ofList (PercentEncoding.escape afURLQueryAllowed string.toList)

/-- `boolEncoding.encode(value:)`, numeric. -/
def encodeBool (value : Bool) : String := if value then "1" else "0"

/-- `arrayEncoding.encode(key:atIndex:)`, with brackets. -/
def encodeArray (key : String) : String := key ++ "[]"

/-- The key of a nested dictionary. -/
def nested (key nestedKey : String) : String := key ++ "[" ++ nestedKey ++ "]"

mutual

def queryComponents (key : String) : Parameter → List (String × String)
  | .dictionary entries => dictionaryComponents key entries
  | .array values => arrayComponents key values
  | .bool value => [(escape key, escape (encodeBool value))]
  | .text value => [(escape key, escape value)]

def dictionaryComponents (key : String) : List (String × Parameter) → List (String × String)
  | [] => []
  | (nestedKey, value) :: entries =>
    queryComponents (nested key nestedKey) value ++ dictionaryComponents key entries

def arrayComponents (key : String) : List Parameter → List (String × String)
  | [] => []
  | value :: values => queryComponents (encodeArray key) value ++ arrayComponents key values

end

/-- The entries in the order of their keys. -/
def sorted (parameters : Parameters) : Parameters :=
  parameters.mergeSort fun p q => decide (p.1 ≤ q.1)

def query (parameters : Parameters) : String :=
  let components := (sorted parameters).flatMap fun (key, value) => queryComponents key value
  String.ofList (['&'].intercalate (components.map fun (key, value) => (key ++ "=" ++ value).toList))

/-! ## What a server reads -/

/-- The text of an escaped part; a form reader takes `+` for a blank. -/
def readPart (form : Bool) (part : List Char) : Option String :=
  (PercentEncoding.unescape (part.map fun c => if form && c == '+' then ' ' else c)).map
    String.ofList

/-- The pair of a component, cut at its first `=`. -/
def readComponent (form : Bool) (component : List Char) : Option (String × String) :=
  match component.dropWhile (· != '=') with
  | _ :: value => do
    let key ← readPart form (component.takeWhile (· != '='))
    let value ← readPart form value
    some (key, value)
  | [] => none

def readQuery (form : Bool) (query : String) : Option (List (String × String)) :=
  if query.isEmpty then some [] else (query.toList.splitOn '&').mapM (readComponent form)

mutual

/-- The pairs that a parameter stands for. -/
def pairs (key : String) : Parameter → List (String × String)
  | .dictionary entries => dictionaryPairs key entries
  | .array values => arrayPairs key values
  | .bool value => [(key, encodeBool value)]
  | .text value => [(key, value)]

def dictionaryPairs (key : String) : List (String × Parameter) → List (String × String)
  | [] => []
  | (nestedKey, value) :: entries =>
    pairs (nested key nestedKey) value ++ dictionaryPairs key entries

def arrayPairs (key : String) : List Parameter → List (String × String)
  | [] => []
  | value :: values => pairs (encodeArray key) value ++ arrayPairs key values

end

/-- The pairs that parameters stand for, in the order in which they are sent. -/
def allPairs (parameters : Parameters) : List (String × String) :=
  (sorted parameters).flatMap fun (key, value) => pairs key value

/-! ## Reading back -/

/-- Escape both parts of a pair. -/
def escapePair (pair : String × String) : String × String := (escape pair.1, escape pair.2)

mutual

/-- The components are the escaped pairs. -/
lemma queryComponents_eq (key : String) :
    ∀ p : Parameter, queryComponents key p = (pairs key p).map escapePair
  | .dictionary entries => dictionaryComponents_eq key entries
  | .array values => arrayComponents_eq key values
  | .bool _ => rfl
  | .text _ => rfl

lemma dictionaryComponents_eq (key : String) : ∀ entries : List (String × Parameter),
    dictionaryComponents key entries = (dictionaryPairs key entries).map escapePair
  | [] => rfl
  | (nestedKey, value) :: entries => by
    rw [dictionaryComponents, dictionaryPairs, List.map_append, queryComponents_eq _ value,
      dictionaryComponents_eq key entries]

lemma arrayComponents_eq (key : String) : ∀ values : List Parameter,
    arrayComponents key values = (arrayPairs key values).map escapePair
  | [] => rfl
  | value :: values => by
    rw [arrayComponents, arrayPairs, List.map_append, queryComponents_eq _ value,
      arrayComponents_eq key values]

end

/-- The characters of a component. -/
def component (pair : String × String) : List Char := (escape pair.1 ++ "=" ++ escape pair.2).toList

lemma component_eq (pair : String × String) :
    component pair = (escape pair.1).toList ++ '=' :: (escape pair.2).toList := by
  simp [component]

/-- The query is that of the escaped pairs. -/
lemma query_eq (parameters : Parameters) : query parameters = String.ofList (['&'].intercalate
    ((allPairs parameters).map component)) := by
  have components : ((sorted parameters).flatMap fun (key, value) => queryComponents key value) =
      (allPairs parameters).map escapePair := by
    rw [allPairs, List.map_flatMap]
    congr 1
    funext ⟨key, value⟩
    exact queryComponents_eq key value
  simp only [query, components, List.map_map]
  rfl

/-- No separator stands in an escaped text. -/
lemma ne_of_mem_escape {string : String} {c : Char} (hc : c ∈ (escape string).toList) :
    c ≠ '&' ∧ c ≠ '=' ∧ c ≠ '+' := by
  rw [escape, String.toList_ofList] at hc
  rcases PercentEncoding.mem_escape hc with rfl | letter | kept
  · decide
  · refine ⟨?_, ?_, ?_⟩ <;> rintro rfl <;> cases letter
  · refine ⟨?_, ?_, ?_⟩ <;> rintro rfl <;> revert kept <;> decide

/-- An escaped text is read back, also by a reader that takes `+` for a blank. -/
lemma readPart_escape (form : Bool) (string : String) :
    readPart form (escape string).toList = some string := by
  have same : (escape string).toList.map (fun c => if form && c == '+' then ' ' else c) =
      (escape string).toList := by
    apply (List.map_congr_left _).trans (List.map_id _)
    intro c hc
    simp [(ne_of_mem_escape hc).2.2]
  have back : PercentEncoding.unescape (escape string).toList = some string.toList := by
    rw [escape, String.toList_ofList]
    exact PercentEncoding.unescape_escape (by decide) _
  rw [readPart, same, back, Option.map_some, String.ofList_toList]

/-- A component is read back. -/
lemma readComponent_component (form : Bool) (pair : String × String) :
    readComponent form (component pair) = some pair := by
  have key : ∀ c ∈ (escape pair.1).toList, (c != '=') = true := fun c hc => by
    simp [(ne_of_mem_escape hc).2.1]
  rw [component_eq, readComponent, List.dropWhile_append_of_pos key,
    List.takeWhile_append_of_pos key]
  simp [readPart_escape]

/-- No component holds the separator of components. -/
lemma not_mem_component (pair : String × String) : '&' ∉ component pair := by
  intro mem
  rw [component_eq, List.mem_append, List.mem_cons] at mem
  rcases mem with key | eq | value
  · exact (ne_of_mem_escape key).1 rfl
  · cases eq
  · exact (ne_of_mem_escape value).1 rfl

/-- Reading undoes writing, component by component. -/
lemma mapM_map_of_read {α β : Type} {write : α → β} {read : β → Option α}
    (back : ∀ x, read (write x) = some x) (l : List α) : (l.map write).mapM read = some l := by
  induction l with
  | nil => rfl
  | cons x l ih => simp [back, ih]

/-- A server reads the pairs that the parameters stand for, whatever characters they contain. -/
lemma readQuery_query (form : Bool) (parameters : Parameters) :
    readQuery form (query parameters) = some (allPairs parameters) := by
  rw [query_eq, readQuery]
  cases found : allPairs parameters with
  | nil => rfl
  | cons pair rest =>
    have apart : ∀ l ∈ (pair :: rest).map component, '&' ∉ l := by
      intro l hl
      obtain ⟨pair, _, rfl⟩ := List.mem_map.1 hl
      exact not_mem_component pair
    have split : (['&'].intercalate ((pair :: rest).map component)).splitOn '&' =
        (pair :: rest).map component := List.splitOn_intercalate _ apart (by simp)
    have nonempty : (String.ofList (['&'].intercalate ((pair :: rest).map component))).isEmpty =
        false := by
      rw [Bool.eq_false_iff]
      intro empty
      have nil : ['&'].intercalate ((pair :: rest).map component) = [] := by
        simpa using String.isEmpty_iff.1 empty
      rw [nil, List.map_cons, component_eq] at split
      simp at split
    rw [nonempty, String.toList_ofList, split]
    exact mapM_map_of_read (readComponent_component form) _

end URLEncoding
end TimeCapsule.Foundation
