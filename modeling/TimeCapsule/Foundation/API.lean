import Mathlib

/-!
# Answers of the server

What a response handler is given: Alamofire runs it once per request, on the main queue, with the
decoded value or a failure (`responseDecodable`), or with raw data that the service decodes itself
(`responseData`).
-/

namespace TimeCapsule.Foundation

/-- The outcome of `responseDecodable`. -/
inductive AFResult (α : Type) where
  | success (value : α)
  | failure
deriving DecidableEq, Repr

/-- The outcome of `responseData` together with the attempts to read the data: as the expected
value, else as UTF-8 text, else not at all. -/
inductive DataResponse (α : Type) where
  | decoded (json : α)
  | text (body : String)
  | binary
  | failure
deriving DecidableEq, Repr

/-- The envelope of every answer. -/
structure Response (α : Type) where
  isSuccess : Bool
  code : String
  message : String
  result : α
deriving DecidableEq, Repr

/-- The answer of a request that the server has accepted. -/
def AFResult.accepted {α : Type} : AFResult (Response α) → Option (Response α)
  | .success response => if response.isSuccess then some response else none
  | .failure => none

/-- The decoded value. -/
def AFResult.value {α : Type} : AFResult α → Option α
  | .success value => some value
  | .failure => none

/-- The decoded value. -/
def DataResponse.json {α : Type} : DataResponse α → Option α
  | .decoded json => some json
  | _ => none

lemma AFResult.value_eq_some {α : Type} {result : AFResult α} {value : α} :
    result.value = some value ↔ result = .success value := by
  cases result <;> simp [AFResult.value]

lemma DataResponse.json_eq_some {α : Type} {response : DataResponse α} {json : α} :
    response.json = some json ↔ response = .decoded json := by
  cases response <;> simp [DataResponse.json]

end TimeCapsule.Foundation
