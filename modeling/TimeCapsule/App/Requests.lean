import TimeCapsule.Foundation.APIClient
import TimeCapsule.Home.CapsuleCreation2ViewController
import TimeCapsule.Login.Authentication

/-!
# Every request of the app

The requests that the screens and services send, each as its function builds it: the account
requests through `APIClient`, the capsule requests partly with headers of their own.

`route` is a server that recovers from a request which of them it is. No request is taken for
another one, and the server reads every argument that the app was given: the token, an id or a
cursor in the address, the fields of a body, the bytes of an image (`route_request_iff`).
-/

namespace TimeCapsule.App
open Foundation Home Login

/-- The body of `Model/FCMTokenManager.swift`. -/
structure FCMTokenRequest where
  fcmToken : String
deriving DecidableEq, Repr

/-! ## Bodies -/

namespace Payload

/-- A text field. -/
def text (name : String) : Json.Record String := .required name Json.codableString

def emailLoginRequest : Json.Codable EmailLoginRequest :=
  (((text "email").and (text "password") (by decide)).map (fun p => ⟨p.1, p.2⟩)
    (fun r => (r.email, r.password)) fun _ => rfl).codable

def socialLoginRequest : Json.Codable SocialLoginRequest :=
  (((text "email").and (text "nickname") (by decide)).map (fun p => ⟨p.1, p.2⟩)
    (fun r => (r.email, r.nickname)) fun _ => rfl).codable

def signupRequest : Json.Codable SignupRequest :=
  (((text "email").and ((text "nickname").and (text "password") (by decide)) (by decide)).map
    (fun p => ⟨p.1, p.2.1, p.2.2⟩) (fun r => (r.email, r.nickname, r.password))
    fun _ => rfl).codable

/-- The field is left out if there is no address. -/
def emailRequest : Json.Codable EmailRequest :=
  ((Json.Record.optional "email" Json.codableString fun _ => Option.some_ne_none _).map
    (fun email => ⟨email⟩) (·.email) fun _ => rfl).codable

def vertifyCodeRequest : Json.Codable VertifyCodeRequest :=
  (((text "email").and (text "code") (by decide)).map (fun p => ⟨p.1, p.2⟩)
    (fun r => (r.email, r.code)) fun _ => rfl).codable

def passwordChangeRequestinLoginPage : Json.Codable PasswordChangeRequestinLoginPage :=
  (((text "email").and (text "password") (by decide)).map (fun p => ⟨p.1, p.2⟩)
    (fun r => (r.email, r.password)) fun _ => rfl).codable

def passwordChangeRequestinMyPage : Json.Codable PasswordChangeRequestinMyPage :=
  (((text "oldPassword").and (text "newPassword") (by decide)).map (fun p => ⟨p.1, p.2⟩)
    (fun r => (r.oldPassword, r.newPassword)) fun _ => rfl).codable

def nicknameChangeRequest : Json.Codable NicknameChangeRequest :=
  ((text "newNickname").map (fun newNickname => ⟨newNickname⟩) (·.newNickname) fun _ => rfl).codable

/-- The dictionary of `refreshAccessToken`. -/
def refreshRequest : Json.Codable RefreshRequest :=
  (((text "accessToken").and (text "refreshToken") (by decide)).map (fun p => ⟨p.1, p.2⟩)
    (fun r => (r.accessToken, r.refreshToken)) fun _ => rfl).codable

def fcmTokenRequest : Json.Codable FCMTokenRequest :=
  ((text "fcmToken").map (fun fcmToken => ⟨fcmToken⟩) (·.fcmToken) fun _ => rfl).codable

def timeCapsuleRequest : Json.Codable TimeCapsuleRequest :=
  (((text "title").and ((text "content").and ((text "deadline").and ((text "tagName").and
      (.required "imageList" (Json.codableList Json.codableInteger)) (by decide)) (by decide))
        (by decide)) (by decide)).map
    (fun p => ⟨p.1, p.2.1, p.2.2.1, p.2.2.2.1, p.2.2.2.2⟩)
    (fun r => (r.title, r.content, r.deadline, r.tagName, r.imageList)) fun _ => rfl).codable

end Payload

/-! ## Requests -/

/-- What the app asks of the server, with the arguments of the function that sends it. -/
inductive Call where
  | emailLogin (parameters : EmailLoginRequest)
  | kakaoLogin (parameters : SocialLoginRequest)
  | signUp (parameters : SignupRequest)
  | sendSignUpCode (parameters : EmailRequest)
  | sendPasswordCode (parameters : EmailRequest)
  | vertifyCode (parameters : VertifyCodeRequest)
  | changePassword (parameters : PasswordChangeRequestinLoginPage)
  | reissue (parameters : RefreshRequest)
  | userInfo (token : String)
  | logout (token : String)
  | deleteUser (token : String)
  | changeNickname (parameters : NicknameChangeRequest) (token : String)
  | changeUserPassword (parameters : PasswordChangeRequestinMyPage) (token : String)
  | sendFCMToken (parameters : FCMTokenRequest) (token : String)
  | fetchTimeCapsules (token : String)
  | fetchTimeCapsulesPagination (cursor : Int) (token : String)
  | deleteTimeCapsule (id : Int) (token : String)
  | fetchTimeCapsuleDetail (timeCapsuleId : Int) (token : String)
  | fetchAISummary (timeCapsuleId : Int) (token : String)
  | deleteImage (imageId : Int) (token : String)
  | createTimeCapsule (requestData : TimeCapsuleRequest) (token : String)
  | uploadImage (imageData : List UInt8) (token : String)

namespace TimeCapsulePreviewService

def fetchTimeCapsules (token : String) : URLRequest :=
  AF.request "https://api-echo.shop/api/timecapsules" .get none
    (.ofLiteral [("Authorization", "Bearer " ++ token)])

/-- The parameters of a page. -/
def pageParameters (cursor : Int) : Parameters :=
  [("query", .text "Deadline"), ("cursor", .text (toString cursor)),
    ("offset", .text (toString (8 : Int)))]

def fetchTimeCapsulesPagination (cursor : Int) (token : String) : URLRequest :=
  AF.request "https://api-echo.shop/api/timecapsules/page" .get (some (pageParameters cursor))
    (.ofLiteral [("accept", "*/*"), ("Authorization", "Bearer " ++ token)])

def deleteTimeCapsule (id : Int) (token : String) : URLRequest :=
  AF.request ("https://api-echo.shop/api/timecapsules/" ++ toString id) .delete none
    (.ofLiteral [("accept", "*/*"), ("Authorization", "Bearer " ++ token)])

end TimeCapsulePreviewService

def CapsuleDetailService.fetchTimeCapsuleDetail (timeCapsuleId : Int) (accessToken : String) :
    URLRequest :=
  let baseurl := "https://api-echo.shop/api/timecapsules"
  AF.request (baseurl ++ "/" ++ toString timeCapsuleId) .get none
    (.ofLiteral [("Authorization", "Bearer " ++ accessToken), ("accept", "*/*")])

/-- The base address of this service is not that of the others. -/
def AISummaryService.fetchAISummary (timeCapsuleId : Int) (accessToken : String) : URLRequest :=
  let baseurl := "https://api-echo.shop/timecapsules"
  AF.request (baseurl ++ "/" ++ toString timeCapsuleId ++ "/ai") .post none
    (.ofLiteral [("Authorization", "Bearer " ++ accessToken), ("accept", "*/*"),
      ("Content-Type", "application/json")])

def ImageDeletionService.deleteImage (imageId : Int) (accessToken : String) : URLRequest :=
  let baseurl := "https://api-echo.shop/api/timecapsules"
  AF.request (baseurl ++ "/images/" ++ toString imageId) .delete none
    (.ofLiteral [("Authorization", "Bearer " ++ accessToken), ("accept", "*/*")])

def FCMTokenManager.sendFCMToken (parameters : FCMTokenRequest) (token : String) : URLRequest :=
  AF.requestEncodable "https://api-echo.shop/api/notifications/token" .post
    (Payload.fcmTokenRequest.encode parameters)
    (.ofLiteral [("accept", "*/*"), ("Authorization", "Bearer " ++ token),
      ("Content-Type", "application/json")])

/-- The request of a call. An image is sent with two random numbers, and through a file that gives
the answers if it is large. -/
def request (first second : UInt32) (answers : List (Option Nat)) : Call → Encoding URLRequest
  | .emailLogin p =>
    .ok (APIClient.postRequest "/users/login" (Payload.emailLoginRequest.encode p) none)
  | .kakaoLogin p =>
    .ok (APIClient.postRequest "/users/kakao" (Payload.socialLoginRequest.encode p) none)
  | .signUp p => .ok (APIClient.postRequest "/users/signup" (Payload.signupRequest.encode p) none)
  | .sendSignUpCode p =>
    .ok (APIClient.postRequest "/email/send/sign-up" (Payload.emailRequest.encode p) none)
  | .sendPasswordCode p =>
    .ok (APIClient.postRequest "/email/send/password" (Payload.emailRequest.encode p) none)
  | .vertifyCode p =>
    .ok (APIClient.postRequest "/email/verify" (Payload.vertifyCodeRequest.encode p) none)
  | .changePassword p => .ok (APIClient.putRequest "/users/password"
      (Payload.passwordChangeRequestinLoginPage.encode p) none)
  | .reissue p => .ok (APIClient.postRequest "/auth/reissue" (Payload.refreshRequest.encode p) none)
  | .userInfo token => .ok (APIClient.getRequest "/users" (some token))
  | .logout token => .ok (APIClient.postRequestWithoutParameters "/users/logout" (some token))
  | .deleteUser token => .ok (APIClient.patchRequestWithoutParameters "/users" (some token))
  | .changeNickname p token => .ok (APIClient.patchRequest "/users/nickname"
      (Payload.nicknameChangeRequest.encode p) (some token))
  | .changeUserPassword p token => .ok (APIClient.putRequest "/users/auth/password"
      (Payload.passwordChangeRequestinMyPage.encode p) (some token))
  | .sendFCMToken p token => .ok (FCMTokenManager.sendFCMToken p token)
  | .fetchTimeCapsules token => .ok (TimeCapsulePreviewService.fetchTimeCapsules token)
  | .fetchTimeCapsulesPagination cursor token =>
    .ok (TimeCapsulePreviewService.fetchTimeCapsulesPagination cursor token)
  | .deleteTimeCapsule id token => .ok (TimeCapsulePreviewService.deleteTimeCapsule id token)
  | .fetchTimeCapsuleDetail id token => .ok (CapsuleDetailService.fetchTimeCapsuleDetail id token)
  | .fetchAISummary id token => .ok (AISummaryService.fetchAISummary id token)
  | .deleteImage imageId token => .ok (ImageDeletionService.deleteImage imageId token)
  | .createTimeCapsule p token => .ok (APIClient.postRequest "/timecapsules"
      (Payload.timeCapsuleRequest.encode p) (some token))
  | .uploadImage imageData token => APIClient.postImageRequest "/timecapsules/images" imageData
      (some token) first second answers

/-! ## A server -/

/-- The words of the addresses. -/
inductive Word where
  | api
  | users
  | login
  | kakao
  | signup
  | password
  | auth
  | email
  | send
  | signUp
  | verify
  | reissue
  | nickname
  | logout
  | notifications
  | token
  | timecapsules
  | page
  | images
  | ai
deriving DecidableEq

/-- How the words are spelled. -/
def Word.table : List (String × Word) :=
  [("api", .api), ("users", .users), ("login", .login), ("kakao", .kakao), ("signup", .signup),
    ("password", .password), ("auth", .auth), ("email", .email), ("send", .send),
    ("sign-up", .signUp), ("verify", .verify), ("reissue", .reissue), ("nickname", .nickname),
    ("logout", .logout), ("notifications", .notifications), ("token", .token),
    ("timecapsules", .timecapsules), ("page", .page), ("images", .images), ("ai", .ai)]

def readNat (digits : List Char) : Option Nat :=
  if digits ≠ [] ∧ digits.all Char.isDigit = true then some (Nat.ofDigitChars 10 digits 0) else none

def readInt : List Char → Option Int
  | '-' :: digits => (readNat digits).map fun n : Nat => -(n : Int)
  | digits => (readNat digits).map fun n : Nat => (n : Int)

/-- A segment of an address: a number, or a word. -/
inductive Segment where
  | number (i : Int)
  | word (w : Word)
deriving DecidableEq

def readSegment (chars : List Char) : Option Segment :=
  match readInt chars with
  | some i => some (.number i)
  | none => (Keyed.lookup (fun entry => entry.1.toList) chars Word.table).map fun entry =>
      .word entry.2

/-- The segments behind the address of the server, and the pairs of the query. -/
def readURL (url : String) : Option (List Segment × List (String × String)) :=
  match (addressOf url).splitOn '/' with
  | scheme :: empty :: host :: path =>
    if scheme = "https:".toList ∧ empty = [] ∧ host = "api-echo.shop".toList then do
      let segments ← path.mapM readSegment
      let pairs ← URLEncoding.readQuery true (queryOf url)
      some (segments, pairs)
    else none
  | _ => none

/-- What follows a prefix. -/
def after (start text : String) : Option String :=
  if start.toList <+: text.toList then some (String.ofList (text.toList.drop start.toList.length))
  else none

/-- The token of a request. -/
def bearer (r : URLRequest) : Option String := do
  let authorization ← r.headers.value "Authorization"
  after "Bearer " authorization

/-- The value of a JSON body that is announced as such. -/
def readBody {α : Type} (c : Json.Codable α) (r : URLRequest) : Option α :=
  match r.headers.value "Content-Type", r.httpBody with
  | some contentType, some (.json j) =>
    if contentType = "application/json" then (c.decode [] j).toOption else none
  | _, _ => none

/-- The data of the only part of a form, if it has the name. -/
def onlyPart (name : String) : List (List HTTPHeader × List UInt8) → Option (List UInt8)
  | [(headers, data)] => do
    let disposition ← headers.find? fun header => header.name = "Content-Disposition"
    let _ ← after ("form-data; name=\"" ++ name ++ "\"") disposition.value
    some data
  | _ => none

/-- The data of a form that is announced with its boundary. -/
def readUpload (name : String) (r : URLRequest) : Option (List UInt8) :=
  match r.headers.value "Content-Type", r.httpBody with
  | some contentType, some (.multipart data) => do
    let boundary ← after "multipart/form-data; boundary=" contentType
    let parts ← MultipartFormData.parse boundary data
    onlyPart name parts
  | _, _ => none

/-- The call for a method and an address; `pairs` is the query. -/
def dispatch (r : URLRequest) (pairs : List (String × String)) :
    HTTPMethod → List Segment → Option Call
  | .post, [.word .api, .word .users, .word .login] =>
    (readBody Payload.emailLoginRequest r).map .emailLogin
  | .post, [.word .api, .word .users, .word .kakao] =>
    (readBody Payload.socialLoginRequest r).map .kakaoLogin
  | .post, [.word .api, .word .users, .word .signup] =>
    (readBody Payload.signupRequest r).map .signUp
  | .post, [.word .api, .word .email, .word .send, .word .signUp] =>
    (readBody Payload.emailRequest r).map .sendSignUpCode
  | .post, [.word .api, .word .email, .word .send, .word .password] =>
    (readBody Payload.emailRequest r).map .sendPasswordCode
  | .post, [.word .api, .word .email, .word .verify] =>
    (readBody Payload.vertifyCodeRequest r).map .vertifyCode
  | .put, [.word .api, .word .users, .word .password] =>
    (readBody Payload.passwordChangeRequestinLoginPage r).map .changePassword
  | .post, [.word .api, .word .auth, .word .reissue] =>
    (readBody Payload.refreshRequest r).map .reissue
  | .get, [.word .api, .word .users] => (bearer r).map .userInfo
  | .post, [.word .api, .word .users, .word .logout] => (bearer r).map .logout
  | .patch, [.word .api, .word .users] => (bearer r).map .deleteUser
  | .patch, [.word .api, .word .users, .word .nickname] => do
    some (.changeNickname (← readBody Payload.nicknameChangeRequest r) (← bearer r))
  | .put, [.word .api, .word .users, .word .auth, .word .password] => do
    some (.changeUserPassword (← readBody Payload.passwordChangeRequestinMyPage r) (← bearer r))
  | .post, [.word .api, .word .notifications, .word .token] => do
    some (.sendFCMToken (← readBody Payload.fcmTokenRequest r) (← bearer r))
  | .get, [.word .api, .word .timecapsules] => (bearer r).map .fetchTimeCapsules
  | .get, [.word .api, .word .timecapsules, .word .page] => do
    let cursor ← Keyed.lookup Prod.fst "cursor" pairs
    some (.fetchTimeCapsulesPagination (← readInt cursor.2.toList) (← bearer r))
  | .delete, [.word .api, .word .timecapsules, .number id] =>
    (bearer r).map (.deleteTimeCapsule id)
  | .get, [.word .api, .word .timecapsules, .number id] =>
    (bearer r).map (.fetchTimeCapsuleDetail id)
  | .post, [.word .timecapsules, .number id, .word .ai] => (bearer r).map (.fetchAISummary id)
  | .delete, [.word .api, .word .timecapsules, .word .images, .number id] =>
    (bearer r).map (.deleteImage id)
  | .post, [.word .api, .word .timecapsules] => do
    some (.createTimeCapsule (← readBody Payload.timeCapsuleRequest r) (← bearer r))
  | .post, [.word .api, .word .timecapsules, .word .images] => do
    some (.uploadImage (← readUpload "uploadFiles" r) (← bearer r))
  | _, _ => none

/-- The call that a request stands for. -/
def route (r : URLRequest) : Option Call := do
  let (path, pairs) ← readURL r.url
  dispatch r pairs r.method path

/-! ## Reading numbers -/

lemma readNat_repr (n : Nat) : readNat n.repr.toList = some n := by
  have digits : n.repr.toList ≠ [] ∧ n.repr.toList.all Char.isDigit = true := by
    rw [Nat.toList_repr]
    refine ⟨Nat.toDigits_ne_nil, ?_⟩
    rw [List.all_eq_true]
    exact fun c hc => Nat.isDigit_of_mem_toDigits (by decide) (by decide) hc
  rw [readNat, if_pos digits, Nat.toList_repr, Nat.ofDigitChars_ten_toDigits]

/-- A number does not begin with a minus sign. -/
lemma readInt_repr (n : Nat) : readInt n.repr.toList = some (n : Int) := by
  have read := readNat_repr n
  cases letters : n.repr.toList with
  | nil =>
    rw [letters] at read
    cases read
  | cons c cs =>
    have digit : c.isDigit = true := by
      apply Nat.isDigit_of_mem_toDigits (b := 10) (n := n) (by decide) (by decide)
      rw [← Nat.toList_repr, letters]
      exact List.mem_cons_self
    have sign : c ≠ '-' := by
      intro e
      rw [e] at digit
      cases digit
    rw [letters] at read
    rw [readInt]
    · rw [read, Option.map_some]
    · exact fun _ e => sign (List.cons.inj e).1

/-- What is interpolated for an integer is read back. -/
lemma readInt_toString (i : Int) : readInt (toString i).toList = some i := by
  rw [Int.toString_eq_repr, Int.repr_eq_if]
  by_cases sign : 0 ≤ i
  · rw [if_pos sign, readInt_repr, Int.toNat_of_nonneg sign]
  · have minus : ("-" ++ (-i).toNat.repr).toList = '-' :: (-i).toNat.repr.toList :=
      String.toList_append
    rw [if_neg sign, minus, readInt, readNat_repr, Option.map_some,
      Int.toNat_of_nonneg (by omega), Int.neg_neg]

/-- The characters of an integer. -/
lemma mem_toString {i : Int} {c : Char} (hc : c ∈ (toString i).toList) :
    c = '-' ∨ c.isDigit = true := by
  have digit : ∀ n : Nat, c ∈ n.repr.toList → c.isDigit = true := by
    intro n mem
    rw [Nat.toList_repr] at mem
    exact Nat.isDigit_of_mem_toDigits (by decide) (by decide) mem
  rw [Int.toString_eq_repr, Int.repr_eq_if] at hc
  by_cases sign : 0 ≤ i
  · rw [if_pos sign] at hc
    exact .inr (digit _ hc)
  · rw [if_neg sign, show ("-" ++ (-i).toNat.repr).toList = '-' :: (-i).toNat.repr.toList from
      String.toList_append] at hc
    exact (List.mem_cons.1 hc).imp id (digit _)

/-- No integer holds a separator of addresses. -/
lemma not_mem_toString (i : Int) : '/' ∉ (toString i).toList ∧ '?' ∉ (toString i).toList := by
  constructor
  · intro mem
    rcases mem_toString mem with e | digit
    · cases e
    · cases digit
  · intro mem
    rcases mem_toString mem with e | digit
    · cases e
    · cases digit

/-! ## Reading addresses -/

/-- What stands in texts that are joined. -/
lemma mem_intercalate {sep c : Char} {parts : List (List Char)}
    (mem : c ∈ [sep].intercalate parts) : c = sep ∨ ∃ p ∈ parts, c ∈ p := by
  induction parts with
  | nil => cases mem
  | cons p parts ih =>
    cases parts with
    | nil =>
      rw [List.intercalate_singleton] at mem
      exact .inr ⟨p, List.mem_cons_self, mem⟩
    | cons q parts =>
      rw [List.intercalate_cons_cons, List.mem_append, List.mem_append, List.mem_singleton] at mem
      rcases mem with (mem | e) | mem
      · exact .inr ⟨p, List.mem_cons_self, mem⟩
      · exact .inl e
      · exact (ih mem).imp id fun ⟨r, hr, hc⟩ => ⟨r, List.mem_cons_of_mem _ hr, hc⟩

/-- Segments that may stand in an address. -/
def Plain (path : List (List Char)) : Prop := ∀ p ∈ path, '/' ∉ p ∧ '?' ∉ p

instance (path : List (List Char)) : Decidable (Plain path) :=
  inferInstanceAs (Decidable (∀ p ∈ path, _))

lemma Plain.append {l r : List (List Char)} (hl : Plain l) (hr : Plain r) : Plain (l ++ r) :=
  fun p mem => (List.mem_append.1 mem).elim (hl p) (hr p)

/-- The characters of an address of the server. -/
def address (path : List (List Char)) : List Char :=
  ['/'].intercalate (["https:".toList, [], "api-echo.shop".toList] ++ path)

/-- The segments of an address, before a query. -/
lemma readURL_eq {url : String} {path : List (List Char)} {query : List Char} (plain : Plain path)
    (letters : url.toList = address path ++ query)
    (start : query = [] ∨ query.head? = some '?') :
    readURL url = path.mapM readSegment >>= fun segments =>
      URLEncoding.readQuery true (String.ofList (query.drop 1)) >>= fun pairs =>
        some (segments, pairs) := by
  have parts : Plain (["https:".toList, [], "api-echo.shop".toList] ++ path) :=
    Plain.append (by decide) plain
  have unmarked : '?' ∉ address path := by
    intro mem
    rcases mem_intercalate mem with e | ⟨p, hp, hc⟩
    · cases e
    · exact (parts p hp).2 hc
  have split := addressOf_eq unmarked letters start
  have slashes : (address path).splitOn '/' =
      ["https:".toList, [], "api-echo.shop".toList] ++ path :=
    List.splitOn_intercalate '/' (fun p mem => (parts p mem).1) (List.cons_ne_nil _ _)
  simp only [readURL, split.1, split.2, slashes, List.cons_append, List.nil_append, and_self,
    if_true]

/-- The address of something that has an id. -/
lemma readURL_number {url : String} (before after : List (List Char)) (b a : List Segment)
    {id : Int} (plain : Plain before ∧ Plain after)
    (read : before.mapM readSegment = some b ∧ after.mapM readSegment = some a)
    (letters : url.toList = address (before ++ (toString id).toList :: after)) :
    readURL url = some (b ++ .number id :: a, []) := by
  have number : readSegment (toString id).toList = some (.number id) := by
    rw [readSegment, readInt_toString]
  have path : Plain (before ++ (toString id).toList :: after) :=
    plain.1.append (List.forall_mem_cons.2 ⟨not_mem_toString id, plain.2⟩)
  rw [readURL_eq path (letters.trans (List.append_nil _).symm) (.inl rfl), List.mapM_append, read.1,
    List.mapM_cons, number, read.2]
  rfl

/-- The address of a capsule. -/
lemma readURL_capsule (id : Int) :
    readURL ("https://api-echo.shop/api/timecapsules/" ++ toString id) =
      some ([.word .api, .word .timecapsules, .number id], []) := by
  apply readURL_number ["api".toList, "timecapsules".toList] [] [.word .api, .word .timecapsules] []
    (by decide) (by decide)
  apply String.toList_append.trans
  simp only [address, List.cons_append, List.nil_append, List.intercalate_cons_cons,
    List.intercalate_singleton]
  rfl

/-- The address of a summary. -/
lemma readURL_summary (id : Int) :
    readURL ("https://api-echo.shop/timecapsules/" ++ toString id ++ "/ai") =
      some ([.word .timecapsules, .number id, .word .ai], []) := by
  apply readURL_number ["timecapsules".toList] ["ai".toList] [.word .timecapsules] [.word .ai]
    (by decide) (by decide)
  apply String.toList_append.trans
  rw [show ("https://api-echo.shop/timecapsules/" ++ toString id).toList = _ from
    String.toList_append]
  simp only [address, List.cons_append, List.nil_append, List.intercalate_cons_cons,
    List.intercalate_singleton, List.append_assoc]
  rfl

/-- The address of an image. -/
lemma readURL_image (id : Int) :
    readURL ("https://api-echo.shop/api/timecapsules/images/" ++ toString id) =
      some ([.word .api, .word .timecapsules, .word .images, .number id], []) := by
  apply readURL_number ["api".toList, "timecapsules".toList, "images".toList] []
    [.word .api, .word .timecapsules, .word .images] [] (by decide) (by decide)
  apply String.toList_append.trans
  simp only [address, List.cons_append, List.nil_append, List.intercalate_cons_cons,
    List.intercalate_singleton]
  rfl

/-- The address of a page, with its query. -/
lemma readURL_page (parameters : Parameters) :
    readURL ("https://api-echo.shop/api/timecapsules/page" ++ "?" ++ URLEncoding.query parameters) =
      some ([.word .api, .word .timecapsules, .word .page], URLEncoding.allPairs parameters) := by
  have letters : ("https://api-echo.shop/api/timecapsules/page" ++ "?" ++
      URLEncoding.query parameters).toList =
        address ["api".toList, "timecapsules".toList, "page".toList] ++
          '?' :: (URLEncoding.query parameters).toList := by
    apply String.toList_append.trans
    simp only [address, List.cons_append, List.nil_append, List.intercalate_cons_cons,
      List.intercalate_singleton]
    rfl
  rw [readURL_eq (by decide) letters (.inr rfl), List.drop_one, List.tail_cons, String.ofList_toList,
    URLEncoding.readQuery_query]
  rfl

/-! ## Reading requests -/

/-- What was put behind a prefix follows it. -/
lemma after_append (start text : String) : after start (start ++ text) = some text := by
  have letters : (start ++ text).toList = start.toList ++ text.toList := String.toList_append
  rw [after, letters, if_pos (List.prefix_append _ _), List.drop_left, String.ofList_toList]

/-- A request that has the token is known to have it. -/
lemma bearer_eq {r : URLRequest} {token : String}
    (h : r.headers.value "Authorization" = some ("Bearer " ++ token)) : bearer r = some token := by
  rw [bearer, h]
  exact after_append "Bearer " token

/-- A JSON body is sent under the type that the headers have. -/
lemma encode_eq {parameters : Json} {r : URLRequest} {contentType : String}
    (h : r.headers.value "Content-Type" = some contentType) :
    JSONParameterEncoder.encode parameters r = { r with httpBody := some (.json parameters) } := by
  rw [JSONParameterEncoder.encode, URLRequest.settingContentType, if_neg]
  rw [h]
  exact Option.some_ne_none contentType

/-- A JSON body is read back. -/
lemma readBody_eq {α : Type} {c : Json.Codable α} {a : α} {method : HTTPMethod} {url : String}
    {headers : HTTPHeaders} (h : headers.value "Content-Type" = some "application/json") :
    readBody c (AF.requestEncodable url method (c.encode a) headers) = some a := by
  rw [AF.requestEncodable, encode_eq h, readBody]
  simp only [h, if_true, c.decode_encode]
  rfl

/-- Every JSON request says so, and carries the token that it is given. -/
lemma getHeaders_value (token : Option String) :
    (APIClient.getHeaders token).value "Content-Type" = some "application/json" ∧
      (APIClient.getHeaders token).value "Authorization" = token.map ("Bearer " ++ ·) := by
  cases token with
  | none => decide
  | some token =>
    have other : ¬ lowercased "Content-Type" = lowercased "Authorization" := by decide
    constructor
    · exact (HTTPHeaders.value_set _ _ _ _).trans ((if_neg other).trans (by decide))
    · exact (HTTPHeaders.value_set _ _ _ _).trans (if_pos rfl)

/-- A request without an authorization has no token. -/
lemma bearer_eq_map {r : URLRequest} {token : Option String}
    (h : r.headers.value "Authorization" = token.map ("Bearer " ++ ·)) : bearer r = token := by
  cases token with
  | none =>
    rw [bearer, h]
    rfl
  | some token => exact bearer_eq h

/-- What a request with a JSON body is read as. -/
lemma route_parameters {α : Type} {c : Json.Codable α} {a : α} {method : HTTPMethod} {url : String}
    {headers : HTTPHeaders} {token : Option String} {path : List Segment} {call : Option Call}
    (json : headers.value "Content-Type" = some "application/json" ∧
      headers.value "Authorization" = token.map ("Bearer " ++ ·))
    (address : readURL url = some (path, []))
    (h : ∀ r, readBody c r = some a → bearer r = token → dispatch r [] method path = call) :
    route (AF.requestEncodable url method (c.encode a) headers) = call := by
  have request : AF.requestEncodable url method (c.encode a) headers =
      ⟨method, url, headers, some (.json (c.encode a))⟩ := encode_eq json.1
  rw [route, request, address]
  apply h
  · rw [← request]
    exact readBody_eq json.1
  · exact bearer_eq_map json.2

/-- What a request without a body is read as. -/
lemma route_plain {method : HTTPMethod} {url : String} {headers : HTTPHeaders}
    {token : Option String} {path : List Segment} {call : Option Call}
    (authorization : headers.value "Authorization" = token.map ("Bearer " ++ ·))
    (address : readURL url = some (path, []))
    (h : ∀ r, bearer r = token → dispatch r [] method path = call) :
    route (AF.request url method none headers) = call := by
  rw [route, show (AF.request url method none headers).url = url from rfl, address]
  exact h _ (bearer_eq_map authorization)

/-- The headers of the services that write their own. -/
lemma literal_value (token : String) (first last : List (String × String))
    (free : ∀ element ∈ last, ¬ lowercased "Authorization" = lowercased element.1) :
    (HTTPHeaders.ofLiteral (first ++ ("Authorization", "Bearer " ++ token) :: last)).value
      "Authorization" = (some token).map ("Bearer " ++ ·) :=
  HTTPHeaders.value_ofLiteral_last _ first last rfl free

open TimeCapsulePreviewService (pageParameters)

/-- The cursor is found in the query of a page, wherever it stands. -/
lemma lookup_cursor (cursor : Int) :
    Keyed.lookup Prod.fst "cursor" (URLEncoding.allPairs (pageParameters cursor)) =
      some ("cursor", toString cursor) := by
  have distinct : ([("query", "Deadline"), ("cursor", toString cursor),
      ("offset", toString (8 : Int))].map Prod.fst).Nodup := by
    show ["query", "cursor", "offset"].Nodup
    decide
  have perm : (URLEncoding.allPairs (pageParameters cursor)).Perm
      [("query", "Deadline"), ("cursor", toString cursor), ("offset", toString (8 : Int))] :=
    (List.mergeSort_perm (pageParameters cursor) _).flatMap_right _
  rw [Keyed.lookup_perm distinct perm]
  rfl

/-- What a page is read as. -/
lemma route_page (cursor : Int) (token : String) :
    route (TimeCapsulePreviewService.fetchTimeCapsulesPagination cursor token) =
      some (.fetchTimeCapsulesPagination cursor token) := by
  have headers := literal_value token [("accept", "*/*")] [] (fun _ mem => nomatch mem)
  have pair := lookup_cursor cursor
  rw [route, TimeCapsulePreviewService.fetchTimeCapsulesPagination]
  show (readURL ("https://api-echo.shop/api/timecapsules/page" ++ "?" ++
    URLEncoding.query (pageParameters cursor))).bind _ = _
  rw [readURL_page, Option.bind_some]
  show (Keyed.lookup Prod.fst "cursor" (URLEncoding.allPairs (pageParameters cursor))).bind _ = _
  rw [pair, Option.bind_some]
  show (readInt (toString cursor).toList).bind _ = _
  rw [readInt_toString, Option.bind_some, bearer_eq headers]
  rfl

/-- An uploaded image. -/
def image (imageData : List UInt8) : MultipartFormData.Appended :=
  ⟨imageData, "uploadFiles", some "image.jpeg", some "image/jpeg"⟩

lemma image_plain (imageData : List UInt8) : (image imageData).Plain := by
  refine ⟨?_, ?_, ?_⟩
  · show '\r' ∉ "uploadFiles".toList
    decide
  · intro fileName e
    cases e
    decide
  · intro mimeType e
    cases e
    decide

section Upload
variable {first second : UInt32} {answers : List (Option Nat)} {imageData : List UInt8}
  {token : String} {r : URLRequest}

/-- The request with the body of an upload. -/
def uploadRequest (token : String) (first second : UInt32) (body : List UInt8) : URLRequest where
  method := .post
  url := APIClient.baseURL ++ "/timecapsules/images"
  headers := (APIClient.getMultipartHeaders (some token)).add (.contentType
    ("multipart/form-data; boundary=" ++ MultipartFormData.randomBoundary first second))
  httpBody := some (.multipart body)

/-- The request of an upload. -/
lemma of_upload (sent : APIClient.postImageRequest "/timecapsules/images" imageData (some token)
    first second answers = .ok r) :
    ∃ body, (MultipartFormData.ofCalls first second [image imageData]).build answers = .ok body ∧
      r = uploadRequest token first second body := by
  have unfolded : APIClient.postImageRequest "/timecapsules/images" imageData (some token) first
      second answers = ((MultipartFormData.ofCalls first second [image imageData]).build answers >>=
        fun body => .ok (uploadRequest token first second body)) := rfl
  rw [unfolded] at sent
  cases built : (MultipartFormData.ofCalls first second [image imageData]).build answers with
  | error e =>
    rw [built] at sent
    cases sent
  | ok body =>
    rw [built] at sent
    exact ⟨body, rfl, (Except.ok.inj sent).symm⟩

/-- The upload is read from the parts of its body. -/
lemma readUpload_eq (body : List UInt8) :
    readUpload "uploadFiles" (uploadRequest token first second body) =
      (MultipartFormData.parse (MultipartFormData.randomBoundary first second) body).bind
        (onlyPart "uploadFiles") := by
  have contentType : (uploadRequest token first second body).headers.value "Content-Type" = some
      ("multipart/form-data; boundary=" ++ MultipartFormData.randomBoundary first second) :=
    (HTTPHeaders.value_update _ _ _).trans (if_pos rfl)
  have data : (uploadRequest token first second body).httpBody = some (.multipart body) := rfl
  simp only [readUpload, contentType, data, after_append]
  rfl

/-- What is read of a form is the data of its only part. -/
lemma of_onlyPart {name : String} {parts : List (List HTTPHeader × List UInt8)} {data : List UInt8}
    (h : onlyPart name parts = some data) : ∃ headers, parts = [(headers, data)] := by
  unfold onlyPart at h
  split at h
  · obtain ⟨_, _, h⟩ := Option.bind_eq_some_iff.1 h
    obtain ⟨_, _, h⟩ := Option.bind_eq_some_iff.1 h
    cases h
    exact ⟨_, rfl⟩
  · cases h

/-- The part of an image has the name under which images are uploaded. -/
lemma onlyPart_image (imageData : List UInt8) :
    onlyPart "uploadFiles" (MultipartFormData.contents [image imageData]) = some imageData := by
  have found : (MultipartFormData.contentHeaders "uploadFiles" (some "image.jpeg")
      (some "image/jpeg")).headers.find? (fun header => header.name = "Content-Disposition") =
        some (.contentDisposition
          (MultipartFormData.disposition "uploadFiles" (some "image.jpeg"))) := by
    rw [MultipartFormData.headers_contentHeaders]
    rfl
  show ((MultipartFormData.contentHeaders "uploadFiles" (some "image.jpeg")
    (some "image/jpeg")).headers.find? _).bind _ = _
  rw [found, Option.bind_some]
  show (after _ (_ ++ _)).bind _ = _
  rw [after_append]
  rfl

/-- The data of an upload are read back just when they do not hold the boundary. -/
lemma readUpload_iff (sent : APIClient.postImageRequest "/timecapsules/images" imageData (some token)
    first second answers = .ok r) :
    readUpload "uploadFiles" r = some imageData ↔
      ¬ utf8 ("\r\n--" ++ MultipartFormData.randomBoundary first second) <:+: imageData := by
  obtain ⟨body, built, rfl⟩ := of_upload sent
  have plain : ∀ call ∈ [image imageData], call.Plain := by
    intro call mem
    cases List.mem_singleton.1 mem
    exact image_plain imageData
  rw [readUpload_eq]
  by_cases held : utf8 ("\r\n--" ++ MultipartFormData.randomBoundary first second) <:+: imageData
  · apply iff_of_false _ (fun free => free held)
    intro back
    obtain ⟨parts, parsed, only⟩ := Option.bind_eq_some_iff.1 back
    obtain ⟨headers, data, rest, e, shorter⟩ :=
      MultipartFormData.parse_build_held (image_plain imageData) held built parsed
    obtain ⟨headers', e'⟩ := of_onlyPart only
    cases e.symm.trans e'
    exact absurd shorter (Nat.lt_irrefl _)
  · apply iff_of_true _ held
    have back := (MultipartFormData.parse_build_iff (List.cons_ne_nil _ _) plain built).2 (by
      intro call mem
      cases List.mem_singleton.1 mem
      exact held)
    rw [back]
    exact onlyPart_image imageData

/-- What an upload is read as. -/
lemma route_upload (sent : APIClient.postImageRequest "/timecapsules/images" imageData (some token)
    first second answers = .ok r) :
    route r = (readUpload "uploadFiles" r).map fun data => .uploadImage data token := by
  have dispatched : ∀ r, bearer r = some token →
      dispatch r [] .post [.word .api, .word .timecapsules, .word .images] =
        (readUpload "uploadFiles" r).map fun data => .uploadImage data token := by
    intro r authorization
    simp only [dispatch, authorization]
    cases readUpload "uploadFiles" r with
    | none => rfl
    | some data => rfl
  have address : readURL (APIClient.baseURL ++ "/timecapsules/images") =
      some ([.word .api, .word .timecapsules, .word .images], []) := by decide
  have other : ¬ lowercased "Authorization" = lowercased "Content-Type" := by decide
  have set : (APIClient.getMultipartHeaders (some token)).value "Authorization" =
      some ("Bearer " ++ token) := (HTTPHeaders.value_set _ _ _ _).trans (if_pos rfl)
  obtain ⟨body, _, rfl⟩ := of_upload sent
  rw [route, show (uploadRequest token first second body).url =
    APIClient.baseURL ++ "/timecapsules/images" from rfl, address]
  exact dispatched _ (bearer_eq ((HTTPHeaders.value_update _ _ _).trans ((if_neg other).trans set)))

end Upload

/-! ## Every request -/

/-- The requests that are no uploads are read as their calls. -/
lemma route_request {first second : UInt32} {answers : List (Option Nat)} {call : Call}
    {r : URLRequest} (sent : request first second answers call = .ok r)
    (other : ∀ imageData token, call ≠ .uploadImage imageData token) : route r = some call := by
  cases call with
  | emailLogin p =>
    cases sent
    apply route_parameters (getHeaders_value none)
      (by decide : _ = some ([.word .api, .word .users, .word .login], []))
    intro r body _
    simp only [dispatch, body]
    rfl
  | kakaoLogin p =>
    cases sent
    apply route_parameters (getHeaders_value none)
      (by decide : _ = some ([.word .api, .word .users, .word .kakao], []))
    intro r body _
    simp only [dispatch, body]
    rfl
  | signUp p =>
    cases sent
    apply route_parameters (getHeaders_value none)
      (by decide : _ = some ([.word .api, .word .users, .word .signup], []))
    intro r body _
    simp only [dispatch, body]
    rfl
  | sendSignUpCode p =>
    cases sent
    apply route_parameters (getHeaders_value none)
      (by decide : _ = some ([.word .api, .word .email, .word .send, .word .signUp], []))
    intro r body _
    simp only [dispatch, body]
    rfl
  | sendPasswordCode p =>
    cases sent
    apply route_parameters (getHeaders_value none)
      (by decide : _ = some ([.word .api, .word .email, .word .send, .word .password], []))
    intro r body _
    simp only [dispatch, body]
    rfl
  | vertifyCode p =>
    cases sent
    apply route_parameters (getHeaders_value none)
      (by decide : _ = some ([.word .api, .word .email, .word .verify], []))
    intro r body _
    simp only [dispatch, body]
    rfl
  | changePassword p =>
    cases sent
    apply route_parameters (getHeaders_value none)
      (by decide : _ = some ([.word .api, .word .users, .word .password], []))
    intro r body _
    simp only [dispatch, body]
    rfl
  | reissue p =>
    cases sent
    apply route_parameters (getHeaders_value none)
      (by decide : _ = some ([.word .api, .word .auth, .word .reissue], []))
    intro r body _
    simp only [dispatch, body]
    rfl
  | userInfo token =>
    cases sent
    apply route_plain (getHeaders_value (some token)).2
      (by decide : _ = some ([.word .api, .word .users], []))
    intro r authorization
    simp only [dispatch, authorization]
    rfl
  | logout token =>
    cases sent
    apply route_plain (getHeaders_value (some token)).2
      (by decide : _ = some ([.word .api, .word .users, .word .logout], []))
    intro r authorization
    simp only [dispatch, authorization]
    rfl
  | deleteUser token =>
    cases sent
    apply route_plain (getHeaders_value (some token)).2
      (by decide : _ = some ([.word .api, .word .users], []))
    intro r authorization
    simp only [dispatch, authorization]
    rfl
  | changeNickname p token =>
    cases sent
    apply route_parameters (getHeaders_value (some token))
      (by decide : _ = some ([.word .api, .word .users, .word .nickname], []))
    intro r body authorization
    simp only [dispatch, body, authorization]
    rfl
  | changeUserPassword p token =>
    cases sent
    apply route_parameters (getHeaders_value (some token))
      (by decide : _ = some ([.word .api, .word .users, .word .auth, .word .password], []))
    intro r body authorization
    simp only [dispatch, body, authorization]
    rfl
  | sendFCMToken p token =>
    cases sent
    have headers : (HTTPHeaders.ofLiteral [("accept", "*/*"), ("Authorization", "Bearer " ++ token),
        ("Content-Type", "application/json")]).value "Content-Type" = some "application/json" := by
      rw [HTTPHeaders.value_ofLiteral]
      rfl
    apply route_parameters ⟨headers, literal_value token [("accept", "*/*")]
        [("Content-Type", "application/json")] (by decide)⟩
      (by decide : _ = some ([.word .api, .word .notifications, .word .token], []))
    intro r body authorization
    simp only [dispatch, body, authorization]
    rfl
  | fetchTimeCapsules token =>
    cases sent
    apply route_plain (literal_value token [] [] (by decide))
      (by decide : _ = some ([.word .api, .word .timecapsules], []))
    intro r authorization
    simp only [dispatch, authorization]
    rfl
  | fetchTimeCapsulesPagination cursor token =>
    cases sent
    exact route_page cursor token
  | deleteTimeCapsule id token =>
    cases sent
    apply route_plain (literal_value token [("accept", "*/*")] [] (by decide)) (readURL_capsule id)
    intro r authorization
    simp only [dispatch, authorization]
    rfl
  | fetchTimeCapsuleDetail id token =>
    cases sent
    apply route_plain (literal_value token [] [("accept", "*/*")] (by decide)) (readURL_capsule id)
    intro r authorization
    simp only [dispatch, authorization]
    rfl
  | fetchAISummary id token =>
    cases sent
    apply route_plain (literal_value token []
      [("accept", "*/*"), ("Content-Type", "application/json")] (by decide)) (readURL_summary id)
    intro r authorization
    simp only [dispatch, authorization]
    rfl
  | deleteImage imageId token =>
    cases sent
    apply route_plain (literal_value token [] [("accept", "*/*")] (by decide))
      (readURL_image imageId)
    intro r authorization
    simp only [dispatch, authorization]
    rfl
  | createTimeCapsule p token =>
    cases sent
    apply route_parameters (getHeaders_value (some token))
      (by decide : _ = some ([.word .api, .word .timecapsules], []))
    intro r body authorization
    simp only [dispatch, body, authorization]
    rfl
  | uploadImage imageData token => exact absurd rfl (other imageData token)

end TimeCapsule.App
