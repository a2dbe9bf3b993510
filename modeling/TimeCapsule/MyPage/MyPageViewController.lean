import TimeCapsule.Foundation.Keychain
import TimeCapsule.Login.UserModel
import TimeCapsule.Lib.Wire

/-!
# My page

The user-info part of `MyPageViewController`; its logout and withdrawal are steps of the session.
-/

namespace TimeCapsule.MyPage
open Foundation Login

/-- The labels of the page, and the requests for the user info, which carry their token. -/
structure MyPageViewController where
  userEmailInfoLabel : String := "이메일"
  userNicknameInfoLabel : String := "닉네임"
  userInfos : Wire String (AFResult UserResponse) := []
deriving DecidableEq, Repr

inductive MyPageEvent where
  | viewWillAppear
  | userInfo (traffic : Traffic (AFResult UserResponse))
deriving DecidableEq, Repr

namespace MyPageViewController

def fetchUserInfo (keychain : Keychain) (s : MyPageViewController) : MyPageViewController :=
  match keychain.load .refreshToken with
  | some token => { s with userInfos := s.userInfos.send token }
  | none => s

/-- The response handler of `fetchUserInfo`; it traps on a success without a result. -/
def userInfoHandler (s : MyPageViewController) : AFResult UserResponse → Option MyPageViewController
  | .success response =>
    if response.isSuccess then
      match response.result with
      | some result =>
        some { s with
          userEmailInfoLabel := result.email
          userNicknameInfoLabel := result.nickname }
      | none => none
    else
      some s
  | .failure => some s

def step (keychain : Keychain) (s : MyPageViewController) :
    MyPageEvent → Option MyPageViewController
  | .viewWillAppear => some (s.fetchUserInfo keychain)
  | .userInfo traffic =>
    let (userInfos, delivered) := s.userInfos.step traffic
    match delivered with
    | some (_, result) => { s with userInfos }.userInfoHandler result
    | none => some { s with userInfos }

end MyPageViewController

end TimeCapsule.MyPage
