import TimeCapsule.Lib.Json
import TimeCapsule.Foundation.MultipartFormData
import TimeCapsule.Foundation.URLEncoding

/-!
# The API client

The requests that Alamofire's `Session` makes of its arguments (`AF`), and the senders of
`API+Extension.swift` (`APIClient`), which add their headers and the address of the server.

A JSON body is the value that `JSONEncoder` writes. Header fields have no order in a `URLRequest`,
and are only looked up here.
-/

namespace TimeCapsule.Foundation

inductive HTTPMethod where
  | get
  | post
  | put
  | patch
  | delete
deriving DecidableEq, Repr

inductive HTTPBody where
  | json (value : Json)
  | form (query : String)
  | multipart (data : List UInt8)

structure URLRequest where
  method : HTTPMethod
  url : String
  headers : HTTPHeaders
  httpBody : Option HTTPBody

namespace URLRequest

/-- Set a content type, if there is none. -/
def settingContentType (request : URLRequest) (value : String) : URLRequest :=
  if request.headers.value "Content-Type" = none then
    { request with headers := request.headers.update (.contentType value) }
  else request

end URLRequest

/-- `destination.encodesParametersInURL(for:)`, depending on the method. -/
def HTTPMethod.encodesParametersInURL : HTTPMethod → Bool
  | .get => true
  | .delete => true
  | _ => false

/-- `URLEncoding.encode(_:with:)`. -/
def URLEncoding.encode (request : URLRequest) : Option Parameters → URLRequest
  | none => request
  | some parameters =>
    if request.method.encodesParametersInURL then
      if parameters.isEmpty then request
      else { request with url := request.url ++ "?" ++ query parameters }
    else
      { request.settingContentType "application/x-www-form-urlencoded; charset=utf-8" with
        httpBody := some (.form (query parameters)) }

/-- `JSONParameterEncoder.encode(_:into:)`. -/
def JSONParameterEncoder.encode (parameters : Json) (request : URLRequest) : URLRequest :=
  { request with httpBody := some (.json parameters) }.settingContentType "application/json"

namespace AF

/-- `request(_:method:parameters:encoding:headers:)`. `JSONEncoding` does the same for no
parameters. -/
def request (url : String) (method : HTTPMethod) (parameters : Option Parameters)
    (headers : HTTPHeaders) : URLRequest :=
  URLEncoding.encode ⟨method, url, headers, none⟩ parameters

/-- `request(_:method:parameters:encoder:headers:)`. -/
def requestEncodable (url : String) (method : HTTPMethod) (parameters : Json)
    (headers : HTTPHeaders) : URLRequest :=
  JSONParameterEncoder.encode parameters ⟨method, url, headers, none⟩

/-- `upload(multipartFormData:to:method:headers:)`; `answers` is what a file does that is written
on the way. -/
def upload (form : MultipartFormData) (url : String) (method : HTTPMethod) (headers : HTTPHeaders)
    (answers : List (Option Nat)) : Encoding URLRequest := do
  let data ← form.build answers
  .ok {
    method
    url
    headers := headers.add (.contentType ("multipart/form-data; boundary=" ++ form.boundary))
    httpBody := some (.multipart data) }

end AF

/-! ## Where a server finds parameters -/

/-- The characters of an address before its query. -/
def addressOf (url : String) : List Char := url.toList.takeWhile (· != '?')

/-- The query of an address. -/
def queryOf (url : String) : String := String.ofList ((url.toList.dropWhile (· != '?')).drop 1)

/-- The text that a form body has. -/
def formOf (request : URLRequest) : String :=
  match request.httpBody with
  | some (.form query) => query
  | _ => ""

/-- An address is cut at its first question mark. -/
lemma addressOf_eq {url : String} {address rest : List Char} (free : '?' ∉ address)
    (letters : url.toList = address ++ rest) (start : rest = [] ∨ rest.head? = some '?') :
    addressOf url = address ∧ queryOf url = String.ofList (rest.drop 1) := by
  have all : ∀ c ∈ address, (c != '?') = true := by
    intro c mem
    rw [bne_iff_ne]
    rintro rfl
    exact free mem
  rw [addressOf, queryOf, letters, List.takeWhile_append_of_pos all,
    List.dropWhile_append_of_pos all]
  cases rest with
  | nil => exact ⟨List.append_nil address, rfl⟩
  | cons c cs =>
    have mark : c = '?' := by simpa using start
    subst mark
    exact ⟨List.append_nil address, rfl⟩

/-- A content type that is set is there, if there was none before. -/
lemma value_settingContentType (request : URLRequest) (value : String) :
    (request.settingContentType value).headers.value "Content-Type" =
      some ((request.headers.value "Content-Type").getD value) := by
  rw [URLRequest.settingContentType]
  cases found : request.headers.value "Content-Type" with
  | none =>
    rw [if_pos rfl]
    exact (HTTPHeaders.value_update _ _ _).trans (if_pos rfl)
  | some contentType =>
    rw [if_neg (Option.some_ne_none contentType)]
    exact found

namespace APIClient

def baseURL : String := "https://api-echo.shop/api"

/-- The headers of a content type, with the token if there is one. -/
def headersOf (contentType : String) (token : Option String) : HTTPHeaders :=
  let headers := HTTPHeaders.ofLiteral [("accept", "*/*"), ("Content-Type", contentType)]
  match token with
  | some token => headers.set "Authorization" (some ("Bearer " ++ token))
  | none => headers

def getHeaders (token : Option String) : HTTPHeaders := headersOf "application/json" token

def getMultipartHeaders (token : Option String) : HTTPHeaders :=
  headersOf "multipart/form-data" token

/-- The senders without parameters. -/
def send (method : HTTPMethod) (endpoint : String) (token : Option String) : URLRequest :=
  AF.request (baseURL ++ endpoint) method none (getHeaders token)

/-- The senders with parameters in the body. -/
def sendParameters (method : HTTPMethod) (endpoint : String) (parameters : Json)
    (token : Option String) : URLRequest :=
  AF.requestEncodable (baseURL ++ endpoint) method parameters (getHeaders token)

def getRequest (endpoint : String) (token : Option String) : URLRequest := send .get endpoint token

/-- The overload of `getRequest` with parameters. -/
def getRequestParameters (endpoint : String) (parameters : Option Parameters)
    (token : Option String) : URLRequest :=
  AF.request (baseURL ++ endpoint) .get parameters (getHeaders token)

def postRequest (endpoint : String) (parameters : Json) (token : Option String) : URLRequest :=
  sendParameters .post endpoint parameters token

def postRequestWithoutParameters (endpoint : String) (token : Option String) : URLRequest :=
  send .post endpoint token

def postImageRequest (endpoint : String) (imageData : List UInt8) (token : Option String)
    (first second : UInt32) (answers : List (Option Nat)) : Encoding URLRequest :=
  AF.upload ((MultipartFormData.init first second).append imageData "uploadFiles" (some "image.jpeg")
    (some "image/jpeg")) (baseURL ++ endpoint) .post (getMultipartHeaders token) answers

def putRequest (endpoint : String) (parameters : Json) (token : Option String) : URLRequest :=
  sendParameters .put endpoint parameters token

def deleteRequest (endpoint : String) (token : Option String) : URLRequest :=
  send .delete endpoint token

def patchRequest (endpoint : String) (parameters : Json) (token : Option String) : URLRequest :=
  sendParameters .patch endpoint parameters token

def patchRequestWithoutParameters (endpoint : String) (token : Option String) : URLRequest :=
  send .patch endpoint token

end APIClient
end TimeCapsule.Foundation
