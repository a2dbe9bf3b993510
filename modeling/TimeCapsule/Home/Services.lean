import TimeCapsule.Foundation.Alamofire
import TimeCapsule.Home.CapsuleCreation2ViewController
import TimeCapsule.Home.HomeViewController

/-!
# The services of the capsule endpoints

Each service method sends one request at most and hands what becomes of it to a completion. A method
is here the list of the calls of its completion, for a transfer that ends in a given way.

Two things silence a completion: the list methods print a body that is text but no list, and three
methods return when no token is stored. Apart from these every call is answered exactly once
(`services_call_once`); a deletion that is refused with a status is answered with a failure,
whatever its body says.
-/

namespace TimeCapsule.Home
open Foundation

structure CapsuleDetailResponse.ResultData where
  capsuleId : Int
  userId : Int
  isOpened : Bool
  title : String
  content : String
  imageList : Option (List String)
  tagName : String
  createdAt : String
  now : String
  deadline : String
deriving DecidableEq, Repr

abbrev CapsuleDetailResponse := Response (Option CapsuleDetailResponse.ResultData)

abbrev CapsuleAIResponse := Response (Option String)

/-- The attempts to read the data of an answer. -/
def dataResponse {α : Type} (decoder : Decoder α) : AFResult ByteArray → DataResponse α
  | .success data =>
    match decoder.decode data with
    | some json => .decoded json
    | none =>
      match String.fromUTF8? data with
      | some token => .text token
      | none => .binary
  | .failure => .failure

/-- A handler that passes the decoded value or the error on. -/
def passOn {α : Type} : AFResult α → List (Except ServiceError α)
  | .success value => [.ok value]
  | .failure => [.error .af]

/-- A method that loads the token itself, and returns without one. -/
def loadAndSend {α : Type} (af : Alamofire) (decoder : Decoder α) (keychain : Keychain)
    (outcome : Outcome) : List (Except ServiceError α) :=
  match keychain.load .refreshToken with
  | some _accessToken => passOn (af.responseDecodable decoder outcome)
  | none => []

namespace TimeCapsulePreviewService

def fetchTimeCapsules (af : Alamofire) (decoder : Decoder TimeCapsulePreviewResponse)
    (outcome : Outcome) : List (Except ServiceError (List TimeCapsulePreview)) :=
  (fetchTimeCapsulesResult (dataResponse decoder (af.responseData outcome))).toList

def fetchTimeCapsulesPagination (af : Alamofire)
    (decoder : Decoder TimeCapsulePreviewPaginationResponse) (m : TimeCapsulePreviewModel)
    (outcome : Outcome) : List (Except ServiceError (List TimeCapsulePreview)) :=
  (fetchTimeCapsulesPaginationResult m (dataResponse decoder (af.responseData outcome))).2.toList

def deleteTimeCapsule (af : Alamofire) (decoder : Decoder DeleteResponse) (outcome : Outcome) :
    List (Except ServiceError DeleteResponse) :=
  passOn (af.responseDecodable decoder (af.validate outcome))

end TimeCapsulePreviewService

def CapsuleDetailService.fetchTimeCapsuleDetail (af : Alamofire)
    (decoder : Decoder CapsuleDetailResponse) (keychain : Keychain) (outcome : Outcome) :
    List (Except ServiceError CapsuleDetailResponse) :=
  loadAndSend af decoder keychain outcome

def ImageDeletionService.deleteImage (af : Alamofire) (decoder : Decoder DeleteImageResponse)
    (keychain : Keychain) (outcome : Outcome) : List (Except ServiceError DeleteImageResponse) :=
  loadAndSend af decoder keychain outcome

def AISummaryService.fetchAISummary (af : Alamofire) (decoder : Decoder CapsuleAIResponse)
    (keychain : Keychain) (outcome : Outcome) : List (Except ServiceError CapsuleAIResponse) :=
  loadAndSend af decoder keychain outcome

/-! ## Calls of a completion -/

/-- The completion is called once: with the value if there is one, else with an error. -/
def CalledOnce {α : Type} (calls : List (Except ServiceError α)) : Option α → Prop
  | some value => calls = [.ok value]
  | none => ∃ error, calls = [.error error]

/-- The body that the handler is given is text, and does not decode. -/
def HandsOnText {α : Type} (decoder : Decoder α) : Outcome → Prop
  | .error => False
  | .response statusCode data =>
    (data ≠ .empty ∨ statusCode = 204 ∨ statusCode = 205) ∧ decoder.decode data = none ∧
      (String.fromUTF8? data).isSome

section Calls
variable {af : Alamofire} {outcome : Outcome} {keychain : Keychain} {α : Type} {decoder : Decoder α}

/-- Passing on calls the completion once. -/
lemma passOn_once : CalledOnce (passOn (Alamofire.decodableOf decoder outcome))
    (outcome.value decoder) := by
  unfold Alamofire.decodableOf
  cases outcome.value decoder with
  | none => exact ⟨_, rfl⟩
  | some value => rfl

/-- With a token in the keychain, a method that loads it calls its completion once. -/
lemma loadAndSend_once (documented : af.Documented) (token : (keychain.load .refreshToken).isSome) :
    CalledOnce (loadAndSend af decoder keychain outcome) (outcome.value decoder) := by
  obtain ⟨accessToken, loaded⟩ := Option.isSome_iff_exists.1 token
  simp only [loadAndSend, loaded, documented.responseDecodable]
  exact passOn_once

/-- Data that is no undecodable text is a decoded value just when the body decodes, and else an
answer that is passed on as an error. -/
lemma dataResponse_cases (text : ¬ HandsOnText decoder outcome) :
    match outcome.value decoder with
    | some value => dataResponse decoder (Alamofire.dataOf outcome) = .decoded value
    | none => dataResponse decoder (Alamofire.dataOf outcome) = .binary ∨
      dataResponse decoder (Alamofire.dataOf outcome) = .failure := by
  cases outcome with
  | error => exact .inr rfl
  | response statusCode data =>
    by_cases absent : data = .empty ∧ statusCode ≠ 204 ∧ statusCode ≠ 205
    · have none : decoder.decode data = none := absent.1 ▸ decoder.empty
      simp only [Outcome.value, none, Alamofire.dataOf, if_pos absent]
      exact .inr rfl
    · simp only [Outcome.value, Alamofire.dataOf, if_neg absent, dataResponse]
      cases decoded : decoder.decode data with
      | some value => rfl
      | none =>
        cases read : String.fromUTF8? data with
        | none => exact .inl rfl
        | some token =>
          refine absurd ⟨?_, decoded, by simp [read]⟩ text
          by_contra none
          push Not at none
          exact absent none

/-- A handler of data that answers a value and both errors calls its completion once, unless it is
given text. -/
lemma handler_once {β : Type} (handler : DataResponse α → Option (Except ServiceError β))
    {part : α → β} (documented : af.Documented) (text : ¬ HandsOnText decoder outcome)
    (decoded : ∀ value, handler (.decoded value) = some (.ok (part value)))
    (binary : ∃ error, handler .binary = some (.error error))
    (failure : ∃ error, handler .failure = some (.error error)) :
    CalledOnce (handler (dataResponse decoder (af.responseData outcome))).toList
      ((outcome.value decoder).map part) := by
  have cases := dataResponse_cases text
  rw [documented.responseData]
  cases found : outcome.value decoder with
  | some value =>
    simp only [found] at cases
    rw [cases, decoded]
    rfl
  | none =>
    simp only [found] at cases
    obtain ⟨error, called⟩ :
        ∃ error, handler (dataResponse decoder (Alamofire.dataOf outcome)) = some (.error error) := by
      rcases cases with read | read
      · rwa [read]
      · rwa [read]
    rw [called]
    exact ⟨error, rfl⟩

/-- A deletion calls its completion once, with a value only if it was accepted by its status. -/
lemma deleteTimeCapsule_once {decoder : Decoder DeleteResponse} (documented : af.Documented) :
    CalledOnce (TimeCapsulePreviewService.deleteTimeCapsule af decoder outcome)
      (outcome.validated.value decoder) := by
  rw [TimeCapsulePreviewService.deleteTimeCapsule, documented.validate, documented.responseDecodable]
  exact passOn_once

end Calls

/-- For every keychain and every outcome of the transfer: the list methods call their completion
once unless they are given text that does not decode, a deletion always calls it once, with the
value only for a status of success, and the other methods call it once if a token is stored. -/
theorem services_call_once {af : Alamofire} (documented : af.Documented) (keychain : Keychain)
    (outcome : Outcome) (m : TimeCapsulePreviewModel) (list : Decoder TimeCapsulePreviewResponse)
    (page : Decoder TimeCapsulePreviewPaginationResponse) (deletion : Decoder DeleteResponse)
    (detail : Decoder CapsuleDetailResponse) (image : Decoder DeleteImageResponse)
    (summary : Decoder CapsuleAIResponse) :
    (¬ HandsOnText list outcome →
      CalledOnce (TimeCapsulePreviewService.fetchTimeCapsules af list outcome)
        ((outcome.value list).map (·.result))) ∧
    (¬ HandsOnText page outcome →
      CalledOnce (TimeCapsulePreviewService.fetchTimeCapsulesPagination af page m outcome)
        ((outcome.value page).map (·.result.capsuleList))) ∧
    CalledOnce (TimeCapsulePreviewService.deleteTimeCapsule af deletion outcome)
      (outcome.validated.value deletion) ∧
    ((keychain.load .refreshToken).isSome →
      CalledOnce (CapsuleDetailService.fetchTimeCapsuleDetail af detail keychain outcome)
        (outcome.value detail) ∧
      CalledOnce (ImageDeletionService.deleteImage af image keychain outcome)
        (outcome.value image) ∧
      CalledOnce (AISummaryService.fetchAISummary af summary keychain outcome)
        (outcome.value summary)) := by
  refine ⟨fun text => ?_, fun text => ?_, deleteTimeCapsule_once documented, fun token => ?_⟩
  · exact handler_once fetchTimeCapsulesResult documented text (fun _ => rfl) ⟨_, rfl⟩ ⟨_, rfl⟩
  · exact handler_once (fun response => (fetchTimeCapsulesPaginationResult m response).2)
      documented text (fun _ => rfl) ⟨_, rfl⟩ ⟨_, rfl⟩
  · exact ⟨loadAndSend_once documented token, loadAndSend_once documented token,
      loadAndSend_once documented token⟩

/-- An answer whose body is neither a value nor text, while a token is stored. -/
theorem services_call_once_binary :
    CalledOnce (TimeCapsulePreviewService.fetchTimeCapsules .documented ⟨fun _ => none, rfl⟩
      (.response 500 ⟨#[0xff]⟩)) none ∧
    CalledOnce (TimeCapsulePreviewService.fetchTimeCapsulesPagination .documented
      ⟨fun _ => none, rfl⟩ {} (.response 500 ⟨#[0xff]⟩)) none ∧
    CalledOnce (TimeCapsulePreviewService.deleteTimeCapsule .documented ⟨fun _ => none, rfl⟩
      (.response 500 ⟨#[0xff]⟩)) none ∧
    CalledOnce (CapsuleDetailService.fetchTimeCapsuleDetail .documented ⟨fun _ => none, rfl⟩
      ((∅ : Keychain).save "r" .refreshToken) (.response 500 ⟨#[0xff]⟩)) none ∧
    CalledOnce (ImageDeletionService.deleteImage .documented ⟨fun _ => none, rfl⟩
      ((∅ : Keychain).save "r" .refreshToken) (.response 500 ⟨#[0xff]⟩)) none ∧
    CalledOnce (AISummaryService.fetchAISummary .documented ⟨fun _ => none, rfl⟩
      ((∅ : Keychain).save "r" .refreshToken) (.response 500 ⟨#[0xff]⟩)) none := by
  obtain ⟨list, page, deletion, others⟩ := services_call_once Alamofire.documented_isDocumented
    ((∅ : Keychain).save "r" .refreshToken) (.response 500 ⟨#[0xff]⟩) {} ⟨fun _ => none, rfl⟩
    ⟨fun _ => none, rfl⟩ ⟨fun _ => none, rfl⟩ ⟨fun _ => none, rfl⟩ ⟨fun _ => none, rfl⟩
    ⟨fun _ => none, rfl⟩
  have text {α : Type} :
      ¬ HandsOnText (⟨fun _ => none, rfl⟩ : Decoder α) (.response 500 ⟨#[0xff]⟩) := by
    rintro ⟨_, _, read⟩
    revert read
    decide
  exact ⟨list text, page text, deletion, others rfl⟩

/-- A deletion is refused with a status and an envelope that decodes: the completion gets a failure,
not the envelope. -/
theorem services_call_once_not :
    ¬ ∀ (af : Alamofire) (keychain : Keychain) (outcome : Outcome) (m : TimeCapsulePreviewModel)
      (list : Decoder TimeCapsulePreviewResponse)
      (page : Decoder TimeCapsulePreviewPaginationResponse) (deletion : Decoder DeleteResponse)
      (detail : Decoder CapsuleDetailResponse) (image : Decoder DeleteImageResponse)
      (summary : Decoder CapsuleAIResponse), af.Documented →
      CalledOnce (TimeCapsulePreviewService.fetchTimeCapsules af list outcome)
        ((outcome.value list).map (·.result)) ∧
      CalledOnce (TimeCapsulePreviewService.fetchTimeCapsulesPagination af page m outcome)
        ((outcome.value page).map (·.result.capsuleList)) ∧
      CalledOnce (TimeCapsulePreviewService.deleteTimeCapsule af deletion outcome)
        (outcome.value deletion) ∧
      CalledOnce (CapsuleDetailService.fetchTimeCapsuleDetail af detail keychain outcome)
        (outcome.value detail) ∧
      CalledOnce (ImageDeletionService.deleteImage af image keychain outcome)
        (outcome.value image) ∧
      CalledOnce (AISummaryService.fetchAISummary af summary keychain outcome)
        (outcome.value summary) := by
  intro h
  -- the body is an envelope, which the decoder of deletions reads
  have run := (h .documented ((∅ : Keychain).save "r" .refreshToken)
    (.response 404
      "\x7b\"isSuccess\":false,\"code\":\"404\",\"message\":\"\",\"result\":\"\"\x7d".toUTF8)
    {} ⟨fun _ => none, rfl⟩ ⟨fun _ => none, rfl⟩
    ⟨fun data => if data.isEmpty then none else some ⟨false, "404", "", ""⟩, rfl⟩
    ⟨fun _ => none, rfl⟩ ⟨fun _ => none, rfl⟩ ⟨fun _ => none, rfl⟩
    Alamofire.documented_isDocumented).2.2.1
  have called : [Except.error ServiceError.af] =
      [Except.ok (⟨false, "404", "", ""⟩ : DeleteResponse)] := run
  cases called

end TimeCapsule.Home
