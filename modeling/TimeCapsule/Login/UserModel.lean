import TimeCapsule.Foundation.API

/-!
# Requests and answers of the user endpoints

`Login/UserModel.swift` and `Login/EmailModel.swift`.
-/

namespace TimeCapsule.Login
open Foundation

structure SignupRequest where
  email : String
  nickname : String
  password : String
deriving DecidableEq, Repr

structure UserResult where
  id : Int
  email : String
  nickname : String
  authType : String
deriving DecidableEq, Repr

abbrev UserResponse := Response (Option UserResult)

structure EmailLoginRequest where
  email : String
  password : String
deriving DecidableEq, Repr

structure SocialLoginRequest where
  email : String
  nickname : String
deriving DecidableEq, Repr

structure LoginResult where
  accessToken : String
  refreshToken : String
deriving DecidableEq, Repr

abbrev LoginResponse := Response (Option LoginResult)

abbrev DeleteUserResponse := Response (Option String)

structure PasswordChangeRequestinLoginPage where
  email : String
  password : String
deriving DecidableEq, Repr

structure PasswordChangeRequestinMyPage where
  oldPassword : String
  newPassword : String
deriving DecidableEq, Repr

abbrev PasswordChangeResponse := Response (Option String)

structure NicknameChangeRequest where
  newNickname : String
deriving DecidableEq, Repr

abbrev NicknameChangeResponse := Response (Option String)

structure EmailRequest where
  email : Option String
deriving DecidableEq, Repr

abbrev EmailResponse := Response (Option String)

structure VertifyCodeRequest where
  email : String
  code : String
deriving DecidableEq, Repr

abbrev VertifyCodeResponse := Response (Option String)

end TimeCapsule.Login
