import TimeCapsule.Foundation.APIClient
import TimeCapsule.Foundation.Alamofire

/-!
# Validation and response serialization

What Alamofire makes of an answer: `Features/Validation.swift` looks for an error in it, and
`Features/ResponseSerialization.swift` turns its data into the value that a handler is given. The
request may accept any content type, as those of the app do; then both do what `Alamofire.Documented`
says of them (`ofSource_documented`).
-/

namespace TimeCapsule.Foundation

/-- The errors of a request that is not retried. -/
inductive AFError where
  | explicitlyCancelled
  | createURLRequestFailed
  | createUploadableFailed
  | sessionTaskFailed
  | unacceptableStatusCode (code : Nat)
  | missingContentType
  | unacceptableContentType (responseContentType : String)
  | inputDataNilOrZeroLength
  | invalidEmptyResponse
  | decodingFailed
deriving DecidableEq, Repr

structure HTTPURLResponse where
  statusCode : Nat
  mimeType : Option String
deriving DecidableEq, Repr

/-! ## Validation -/

/-- The members of `CharacterSet.whitespacesAndNewlines`. -/
def isWhitespaceOrNewline (c : Char) : Bool :=
  [0x09, 0x0A, 0x0B, 0x0C, 0x0D, 0x20, 0x85, 0xA0, 0x1680, 0x2028, 0x2029, 0x202F, 0x205F,
    0x3000].contains c.toNat || (0x2000 ≤ c.toNat && c.toNat ≤ 0x200A)

/-- `trimmingCharacters(in: .whitespacesAndNewlines)`. -/
def trimmed (text : List Char) : List Char :=
  (text.dropWhile isWhitespaceOrNewline).rdropWhile isWhitespaceOrNewline

structure MIMEType where
  type : List Char
  subtype : List Char
deriving DecidableEq

namespace MIMEType

/-- The text before the first and that behind the last slash, without parameters. -/
def ofString (string : String) : MIMEType :=
  let stripped := trimmed string.toList
  let components := (stripped.takeWhile (· != ';')).splitOn '/'
  ⟨components.headD [], components.getLastD []⟩

def isWildcard (mime : MIMEType) : Bool := mime.type = ['*'] && mime.subtype = ['*']

def «matches» (acceptable mime : MIMEType) : Bool :=
  (acceptable.type = mime.type || acceptable.type = ['*']) &&
    (acceptable.subtype = mime.subtype || acceptable.subtype = ['*'])

end MIMEType

/-- The elements of a text that is separated by commas. -/
def components (text : String) : List String := (text.toList.splitOn ',').map String.ofList

def acceptableContentTypes (request : Option URLRequest) : List String :=
  match request.bind (·.headers.value "Accept") with
  | some accept => components accept
  | none => ["*/*"]

def validateStatusCode (response : HTTPURLResponse) : Except AFError Unit :=
  if 200 ≤ response.statusCode ∧ response.statusCode < 300 then .ok ()
  else .error (.unacceptableStatusCode response.statusCode)

def validateContentType (acceptable : List String) (response : HTTPURLResponse)
    (data : Option ByteArray) : Except AFError Unit :=
  if data.getD .empty = .empty then .ok ()
  else
    match response.mimeType with
    | none =>
      if acceptable.any fun contentType => (MIMEType.ofString contentType).isWildcard then .ok ()
      else .error .missingContentType
    | some responseContentType =>
      if acceptable.any fun contentType =>
          (MIMEType.ofString contentType).matches (MIMEType.ofString responseContentType) then .ok ()
      else .error (.unacceptableContentType responseContentType)

/-- The two validators that `validate()` appends. -/
inductive Validator where
  | statusCode
  | contentType
deriving DecidableEq, Repr

namespace Validator

def validation (request : Option URLRequest) (response : HTTPURLResponse)
    (data : Option ByteArray) : Validator → Except AFError Unit
  | statusCode => validateStatusCode response
  | contentType => validateContentType (acceptableContentTypes request) response data

/-- The error after a validator; it does nothing if there is one already, or no response. -/
def run (request : Option URLRequest) (response : Option HTTPURLResponse) (data : Option ByteArray)
    (error : Option AFError) (validator : Validator) : Option AFError :=
  match error, response with
  | none, some response =>
    match validator.validation request response data with
    | .ok () => none
    | .error error => some error
  | _, _ => error

end Validator

/-- The validators in the order in which they were appended. -/
def runValidators (validators : List Validator) (request : Option URLRequest)
    (response : Option HTTPURLResponse) (data : Option ByteArray) (error : Option AFError) :
    Option AFError :=
  validators.foldl (Validator.run request response data) error

/-! ## Serializers -/

/-- A serializer; of the request only the method matters, for HEAD, which the app does not use. -/
abbrev Serializer (α : Type) :=
  Option HTTPURLResponse → Option ByteArray → Option AFError → Except AFError α

/-- `emptyResponseAllowed(forRequest:response:)`. -/
def emptyResponseAllowed : Option HTTPURLResponse → Bool
  | some response => response.statusCode = 204 || response.statusCode = 205
  | none => false

def DataResponseSerializer.serialize : Serializer ByteArray
  | _, _, some error => .error error
  | response, data, none =>
    if data.getD .empty = .empty then
      if emptyResponseAllowed response then .ok .empty else .error .inputDataNilOrZeroLength
    else .ok (data.getD .empty)

/-- The app decodes no type that has an empty value. -/
def DecodableResponseSerializer.serialize {α : Type} (decoder : Decoder α) : Serializer α
  | _, _, some error => .error error
  | response, data, none =>
    if data.getD .empty = .empty then
      if emptyResponseAllowed response then .error .invalidEmptyResponse
      else .error .inputDataNilOrZeroLength
    else
      match decoder.decode (data.getD .empty) with
      | some value => .ok value
      | none => .error .decodingFailed

/-! ## What is documented -/

/-- What a handler looks at. -/
def AFResult.ofExcept {α : Type} : Except AFError α → AFResult α
  | .ok value => .success value
  | .error _ => .failure

/-- How a transfer ended. -/
def outcomeOf (response : Option HTTPURLResponse) (data : Option ByteArray) :
    Option AFError → Outcome
  | some _ => .error
  | none =>
    match response with
    | some response => .response response.statusCode (data.getD .empty)
    | none => .error

section Documented
variable {response : Option HTTPURLResponse} {data : Option ByteArray} {error : Option AFError}

/-- There is a response if there is no error. -/
def Answered (response : Option HTTPURLResponse) (error : Option AFError) : Prop :=
  error = none → response.isSome

lemma serialize_data (answered : Answered response error) :
    AFResult.ofExcept (DataResponseSerializer.serialize response data error) =
      Alamofire.dataOf (outcomeOf response data error) := by
  cases error with
  | some error => rfl
  | none =>
    obtain ⟨response, rfl⟩ := Option.isSome_iff_exists.1 (answered rfl)
    show AFResult.ofExcept (if data.getD .empty = .empty then
        if emptyResponseAllowed (some response) then .ok .empty else .error _ else _) =
      if data.getD .empty = .empty ∧ response.statusCode ≠ 204 ∧ response.statusCode ≠ 205 then
        .failure else .success (data.getD .empty)
    by_cases none : data.getD .empty = .empty
    · by_cases announced : response.statusCode = 204 ∨ response.statusCode = 205
      · have allowed : emptyResponseAllowed (some response) = true := by
          simpa [emptyResponseAllowed] using announced
        rw [if_pos none, if_pos allowed, if_neg (by tauto), none]
        rfl
      · have refused : ¬ emptyResponseAllowed (some response) = true := by
          simpa [emptyResponseAllowed] using announced
        rw [if_pos none, if_neg refused, if_pos (by tauto)]
        rfl
    · rw [if_neg none, if_neg (by tauto)]
      rfl

lemma serialize_decodable {α : Type} (decoder : Decoder α) (answered : Answered response error) :
    AFResult.ofExcept (DecodableResponseSerializer.serialize decoder response data error) =
      Alamofire.decodableOf decoder (outcomeOf response data error) := by
  cases error with
  | some error => rfl
  | none =>
    obtain ⟨response, rfl⟩ := Option.isSome_iff_exists.1 (answered rfl)
    show AFResult.ofExcept (if data.getD .empty = .empty then
        if emptyResponseAllowed (some response) then .error _ else .error _ else _) =
      match decoder.decode (data.getD .empty) with
      | some value => .success value
      | none => .failure
    by_cases none : data.getD .empty = .empty
    · rw [if_pos none, none, decoder.empty]
      split <;> rfl
    · rw [if_neg none]
      cases decoder.decode (data.getD .empty) <;> rfl

/-- A content type is always acceptable if any is accepted. -/
lemma validateContentType_wildcard {acceptable : List String} (any : "*/*" ∈ acceptable)
    (response : HTTPURLResponse) : validateContentType acceptable response data = .ok () := by
  have wildcard : MIMEType.ofString "*/*" = ⟨['*'], ['*']⟩ := by decide
  rw [validateContentType]
  split
  · rfl
  · split
    · rw [if_pos]
      rw [List.any_eq_true]
      exact ⟨_, any, by rw [wildcard]; rfl⟩
    · rw [if_pos]
      rw [List.any_eq_true]
      exact ⟨_, any, by simp [wildcard, MIMEType.matches]⟩

/-- What `validate()` makes of an outcome: only the status matters. -/
lemma outcomeOf_runValidators {request : Option URLRequest}
    (any : "*/*" ∈ acceptableContentTypes request) :
    outcomeOf response data
        (runValidators [.statusCode, .contentType] request response data error) =
      (outcomeOf response data error).validated := by
  cases error with
  | some error => rfl
  | none =>
    cases response with
    | none => rfl
    | some response =>
      have accepted : validateContentType _ response data = .ok () :=
        validateContentType_wildcard any response
      show outcomeOf (some response) data (Validator.run request (some response) data
          (Validator.run request (some response) data none .statusCode) .contentType) =
        if 200 ≤ response.statusCode ∧ response.statusCode < 300 then
          .response response.statusCode (data.getD .empty) else .error
      by_cases success : 200 ≤ response.statusCode ∧ response.statusCode < 300
      · simp [Validator.run, Validator.validation, validateStatusCode, success, accepted, outcomeOf]
      · simp [Validator.run, Validator.validation, validateStatusCode, success, outcomeOf]

/-- An error stays. -/
lemma runValidators_some {validators : List Validator} {request : Option URLRequest}
    {error : AFError} : runValidators validators request response data (some error) = some error := by
  induction validators with
  | nil => rfl
  | cons validator validators ih => exact ih

lemma answered_runValidators {validators : List Validator} {request : Option URLRequest}
    (answered : Answered response error) :
    Answered response (runValidators validators request response data error) := by
  intro none
  cases error with
  | none => exact answered rfl
  | some error =>
    rw [runValidators_some] at none
    cases none

end Documented

namespace Alamofire

/-- The response, the data and the error of a request whose transfer ended so. -/
def transferred (mimeType : Option String) :
    Outcome → Option HTTPURLResponse × Option ByteArray × Option AFError
  | .error => (none, none, some .sessionTaskFailed)
  | .response statusCode data => (some ⟨statusCode, mimeType⟩, some data, none)

/-- The library as its source has it, for the answer to a request. -/
def ofSource (request : Option URLRequest) (mimeType : Option String) : Alamofire where
  validate outcome :=
    let (response, data, error) := transferred mimeType outcome
    outcomeOf response data
      (runValidators [.statusCode, .contentType] request response data error)
  responseData outcome :=
    let (response, data, error) := transferred mimeType outcome
    .ofExcept (DataResponseSerializer.serialize response data error)
  responseDecodable decoder outcome :=
    let (response, data, error) := transferred mimeType outcome
    .ofExcept (DecodableResponseSerializer.serialize decoder response data error)

/-- The source keeps to the documentation. -/
lemma ofSource_documented {request : Option URLRequest}
    (any : "*/*" ∈ acceptableContentTypes request) (mimeType : Option String) :
    (ofSource request mimeType).Documented := by
  constructor
  case validate =>
    intro outcome
    cases outcome with
    | error => rfl
    | response statusCode data => exact outcomeOf_runValidators any
  case responseData =>
    intro outcome
    cases outcome with
    | error => rfl
    | response statusCode data => exact serialize_data fun _ => rfl
  case responseDecodable =>
    intro α decoder outcome
    cases outcome with
    | error => rfl
    | response statusCode data => exact serialize_decodable decoder fun _ => rfl

end Alamofire

end TimeCapsule.Foundation
