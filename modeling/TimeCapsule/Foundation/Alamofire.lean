import TimeCapsule.Foundation.API

/-!
# Alamofire

How a transfer ends, and what Alamofire makes of it before it runs the response handler, once for
each request. The library itself is a parameter; `Alamofire.Documented` is what its documentation
says about the serializers and about `validate`, for requests that accept any content type.
-/

namespace TimeCapsule.Foundation

/-- How the transfer of a request ended. -/
inductive Outcome where
  | error
  | response (statusCode : Nat) (data : ByteArray)
deriving DecidableEq

/-- `JSONDecoder` for a type of answers; an empty body is no JSON text. -/
structure Decoder (α : Type) where
  decode : ByteArray → Option α
  empty : decode .empty = none

structure Alamofire where
  validate : Outcome → Outcome
  responseData : Outcome → AFResult ByteArray
  responseDecodable : {α : Type} → Decoder α → Outcome → AFResult α

namespace Outcome

/-- The outcome of a request that is validated: a status other than success is an error. -/
def validated : Outcome → Outcome
  | .error => .error
  | .response statusCode data =>
    if 200 ≤ statusCode ∧ statusCode < 300 then .response statusCode data else .error

/-- What the body decodes to. -/
def value {α : Type} (decoder : Decoder α) : Outcome → Option α
  | .error => none
  | .response _ data => decoder.decode data

end Outcome

namespace Alamofire

/-- An empty body is an answer only for a status that announces one. -/
def dataOf : Outcome → AFResult ByteArray
  | .error => .failure
  | .response statusCode data =>
    if data = .empty ∧ statusCode ≠ 204 ∧ statusCode ≠ 205 then .failure else .success data

/-- The value that the body decodes to. -/
def decodableOf {α : Type} (decoder : Decoder α) (outcome : Outcome) : AFResult α :=
  match outcome.value decoder with
  | some value => .success value
  | none => .failure

structure Documented (af : Alamofire) : Prop where
  validate : ∀ outcome, af.validate outcome = outcome.validated
  responseData : ∀ outcome, af.responseData outcome = dataOf outcome
  responseDecodable : ∀ {α : Type} (decoder : Decoder α) outcome,
    af.responseDecodable decoder outcome = decodableOf decoder outcome

/-- The library as it is documented. -/
def documented : Alamofire := ⟨Outcome.validated, dataOf, decodableOf⟩

lemma documented_isDocumented : documented.Documented := ⟨fun _ => rfl, fun _ => rfl, fun _ _ => rfl⟩

end Alamofire

end TimeCapsule.Foundation
