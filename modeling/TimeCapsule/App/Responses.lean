import TimeCapsule.App.Requests
import TimeCapsule.Foundation.ResponseSerialization

/-!
# Every answer to the app

The requests of the app accept any content type, all but one of them by a header (`accept_request`).
So Alamofire validates their answers by the status alone, and its serializers do what is documented
of them (`response_request`), which the services rely on (`request_documented`).
-/

namespace TimeCapsule.App
open Foundation

/-- A JSON body changes no header but the content type. -/
lemma encode_accept (parameters : Json) (r : URLRequest) :
    (JSONParameterEncoder.encode parameters r).headers.value "Accept" =
      r.headers.value "Accept" := by
  have other : ¬ lowercased "Accept" = lowercased "Content-Type" := by decide
  rw [JSONParameterEncoder.encode, URLRequest.settingContentType]
  split
  · exact (HTTPHeaders.value_update _ _ _).trans (if_neg other)
  · rfl

/-- The client accepts any content type, whatever it sends. -/
lemma headersOf_accept (contentType : String) (token : Option String) :
    (APIClient.headersOf contentType token).value "Accept" = some "*/*" := by
  have literal : (HTTPHeaders.ofLiteral [("accept", "*/*"), ("Content-Type", contentType)]).value
      "Accept" = some "*/*" := by
    have other : ¬ lowercased "Accept" = lowercased "Content-Type" := by decide
    exact HTTPHeaders.value_ofLiteral_last _ [] _ (by decide) (List.forall_mem_singleton.2 other)
  cases token with
  | none => exact literal
  | some token =>
    have other : ¬ lowercased "Accept" = lowercased "Authorization" := by decide
    exact (HTTPHeaders.value_set _ _ _ _).trans ((if_neg other).trans literal)

section Request
variable {first second : UInt32} {answers : List (Option Nat)} {call : Call} {r : URLRequest}

/-- Every request of the app accepts any content type; only the list of the capsules is asked for
without saying so. -/
lemma accept_request (sent : request first second answers call = .ok r) :
    r.headers.value "Accept" =
      match call with
      | .fetchTimeCapsules _ => none
      | _ => some "*/*" := by
  have contentType : ¬ lowercased "Accept" = lowercased "Content-Type" := by decide
  have authorization : ¬ lowercased "Accept" = lowercased "Authorization" := by decide
  have sender (parameters : Json) (method : HTTPMethod) (url : String) (token : Option String) :
      (AF.requestEncodable url method parameters (APIClient.getHeaders token)).headers.value
        "Accept" = some "*/*" :=
    (encode_accept _ _).trans (headersOf_accept _ token)
  cases call with
  | emailLogin p => cases sent; exact sender _ _ _ _
  | kakaoLogin p => cases sent; exact sender _ _ _ _
  | signUp p => cases sent; exact sender _ _ _ _
  | sendSignUpCode p => cases sent; exact sender _ _ _ _
  | sendPasswordCode p => cases sent; exact sender _ _ _ _
  | vertifyCode p => cases sent; exact sender _ _ _ _
  | changePassword p => cases sent; exact sender _ _ _ _
  | reissue p => cases sent; exact sender _ _ _ _
  | userInfo token => cases sent; exact headersOf_accept _ (some token)
  | logout token => cases sent; exact headersOf_accept _ (some token)
  | deleteUser token => cases sent; exact headersOf_accept _ (some token)
  | changeNickname p token => cases sent; exact sender _ _ _ _
  | changeUserPassword p token => cases sent; exact sender _ _ _ _
  | sendFCMToken p token =>
    cases sent
    refine (encode_accept _ _).trans (HTTPHeaders.value_ofLiteral_last _ [] _ (by decide) ?_)
    exact List.forall_mem_cons.2 ⟨authorization, List.forall_mem_singleton.2 contentType⟩
  | fetchTimeCapsules token =>
    cases sent
    refine (HTTPHeaders.value_ofLiteral _ _).trans ?_
    simp [authorization]
  | fetchTimeCapsulesPagination cursor token =>
    cases sent
    exact HTTPHeaders.value_ofLiteral_last _ [] _ (by decide)
      (List.forall_mem_singleton.2 authorization)
  | deleteTimeCapsule id token =>
    cases sent
    exact HTTPHeaders.value_ofLiteral_last _ [] _ (by decide)
      (List.forall_mem_singleton.2 authorization)
  | fetchTimeCapsuleDetail id token =>
    cases sent
    exact HTTPHeaders.value_ofLiteral_last _ [("Authorization", _)] [] (by decide) (by decide)
  | fetchAISummary id token =>
    cases sent
    exact HTTPHeaders.value_ofLiteral_last _ [("Authorization", _)] _ (by decide)
      (List.forall_mem_singleton.2 contentType)
  | deleteImage imageId token =>
    cases sent
    exact HTTPHeaders.value_ofLiteral_last _ [("Authorization", _)] [] (by decide) (by decide)
  | createTimeCapsule p token => cases sent; exact sender _ _ _ _
  | uploadImage imageData token =>
    obtain ⟨body, -, rfl⟩ := of_upload sent
    exact (HTTPHeaders.value_update _ _ _).trans ((if_neg contentType).trans (headersOf_accept _ _))

lemma accepts_any (sent : request first second answers call = .ok r) :
    "*/*" ∈ acceptableContentTypes (some r) := by
  have any : components "*/*" = ["*/*"] := by decide
  have accept := accept_request sent
  rw [acceptableContentTypes, Option.bind_some]
  split at accept
  · rw [accept]
    exact List.mem_singleton_self _
  · rw [accept]
    show "*/*" ∈ components "*/*"
    rw [any]
    exact List.mem_singleton_self _

/-- However the transfer of a request of the app ends: its answer is validated by the status alone,
whatever content type it has. Data are handed on, unless they are missing without a status that
announces it. Of a decodable type, what the decoder makes of the data is handed on, after a
validation only for a status of success. -/
theorem response_request {response : Option HTTPURLResponse} {data : Option ByteArray}
    {error : Option AFError} (sent : request first second answers call = .ok r)
    (answered : Answered response error) :
    let validated := runValidators [.statusCode, .contentType] (some r) response data error
    let outcome := outcomeOf response data error
    outcomeOf response data validated = outcome.validated ∧
      .ofExcept (DataResponseSerializer.serialize response data error) =
        Alamofire.dataOf outcome ∧
      ∀ (α : Type) (decoder : Decoder α),
        .ofExcept (DecodableResponseSerializer.serialize decoder response data error) =
          Alamofire.decodableOf decoder outcome ∧
        .ofExcept (DecodableResponseSerializer.serialize decoder response data validated) =
          Alamofire.decodableOf decoder outcome.validated := by
  intro validated outcome
  have checked : outcomeOf response data validated = outcome.validated :=
    outcomeOf_runValidators (accepts_any sent)
  refine ⟨checked, serialize_data answered, fun α decoder => ?_⟩
  constructor
  · exact serialize_decodable decoder answered
  · rw [← checked]
    exact serialize_decodable decoder (answered_runValidators answered)

/-- So the library is as it is documented, for every request of the app. -/
lemma request_documented (sent : request first second answers call = .ok r)
    (mimeType : Option String) : (Alamofire.ofSource (some r) mimeType).Documented :=
  Alamofire.ofSource_documented (accepts_any sent) mimeType

end Request

/-- A page in HTML answers a deletion, with the status that there is no such capsule. -/
theorem response_request_html :
    let r := TimeCapsulePreviewService.deleteTimeCapsule 7 "t"
    let response := some ⟨404, some "text/html"⟩
    let data := some "<html>".toUTF8
    outcomeOf response data (runValidators [.statusCode, .contentType] (some r) response data none) =
        .error ∧
      .ofExcept (DataResponseSerializer.serialize response data none) =
        AFResult.success "<html>".toUTF8 := by
  have run := @response_request 0 0 [] (.deleteTimeCapsule 7 "t") _ (some ⟨404, some "text/html"⟩)
    (some "<html>".toUTF8) none rfl fun _ => rfl
  have handed : Alamofire.dataOf (.response 404 "<html>".toUTF8) = .success "<html>".toUTF8 := by
    rw [Alamofire.dataOf, if_neg]
    decide
  exact ⟨run.1, run.2.1.trans handed⟩

end TimeCapsule.App
