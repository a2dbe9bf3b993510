import TimeCapsule.Lib.Run
import TimeCapsule.Lib.Wire
import TimeCapsule.Lib.Keyed
import TimeCapsule.Lib.StableSort
import TimeCapsule.Lib.Comparisons
import TimeCapsule.Lib.EffSort
import TimeCapsule.Lib.Chain
import TimeCapsule.Lib.Regex
import TimeCapsule.Lib.Truncate
import TimeCapsule.Foundation.API
import TimeCapsule.Foundation.Alamofire
import TimeCapsule.Foundation.Keychain
import TimeCapsule.Foundation.PasswordFormat
import TimeCapsule.Foundation.Process
import TimeCapsule.Foundation.UIViewController
import TimeCapsule.Home.TimeCapsulePreview
import TimeCapsule.Home.TimeCapsulePreviewModel
import TimeCapsule.Home.TimeCapsulePreviewCollectionViewCell
import TimeCapsule.Home.Store
import TimeCapsule.Home.ListRendering
import TimeCapsule.Login.UserModel
import TimeCapsule.Login.Session
import TimeCapsule.Home.HomeViewController
import TimeCapsule.Home.HomeSteps
import TimeCapsule.Home.Distinct
import TimeCapsule.Home.SortOrder
import TimeCapsule.Home.StableOrder
import TimeCapsule.Home.DeadlineOrder
import TimeCapsule.Home.DeadlineInstant
import TimeCapsule.Home.InitialLoad
import TimeCapsule.Home.ListScreen
import TimeCapsule.App.App
import TimeCapsule.App.Isolation
import TimeCapsule.App.Refresh
import TimeCapsule.App.Deletion
import TimeCapsule.App.Pagination
import TimeCapsule.App.LoggedOut
import TimeCapsule.Home.CapsuleCreation2ViewController
import TimeCapsule.Home.DraftCreation
import TimeCapsule.Home.Duplicates
import TimeCapsule.Home.Services
import TimeCapsule.App.Refusals
import TimeCapsule.Login.Verification
import TimeCapsule.Login.Submission
import TimeCapsule.Login.ChangePasswordViewController
import TimeCapsule.Login.FindPasswordViewController
import TimeCapsule.Login.SignUpViewController
import TimeCapsule.Login.SignUpFeedback
import TimeCapsule.MyPage.MyPageViewController
import TimeCapsule.MyPage.PasswordChangeViewController
import TimeCapsule.App.Passwords
import TimeCapsule.App.MissingResults
import TimeCapsule.Home.Merging
import TimeCapsule.Login.Authentication
import TimeCapsule.Login.Reissue
import TimeCapsule.Home.Screens
import TimeCapsule.Home.PagingCursor
import TimeCapsule.Home.CreationRequests
import TimeCapsule.Home.HomeView
import TimeCapsule.Home.Countdown
import TimeCapsule.Home.LeftAlignedCollectionViewFlowLayout
import TimeCapsule.Lib.Refinement
import TimeCapsule.Home.Book
import TimeCapsule.Home.CapsuleViewController
import TimeCapsule.Home.ModalScreens
import TimeCapsule.Lib.PercentEncoding
import TimeCapsule.Foundation.URLEncoding
import TimeCapsule.Foundation.HTTPHeaders
import TimeCapsule.Lib.Delimited
import TimeCapsule.Foundation.Streams
import TimeCapsule.Foundation.MultipartFormData
import TimeCapsule.Lib.Json
import TimeCapsule.Foundation.APIClient
import TimeCapsule.App.Requests
import TimeCapsule.Foundation.ResponseSerialization
import TimeCapsule.Foundation.DataRequest
import TimeCapsule.Foundation.RequestHandlers
import TimeCapsule.App.Responses
import TimeCapsule.Foundation.RequestTaskMap
