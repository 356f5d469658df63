import GiveMeMovies.ImageView
import GiveMeMovies.PhotoOwnership
import GiveMeMovies.AccountDeletion
import GiveMeMovies.CancelRegistration
import GiveMeMovies.Registration
import GiveMeMovies.SearchResults
import GiveMeMovies.ObservedRuns
import GiveMeMovies.InformationScreen
import GiveMeMovies.InformationAnswers
import GiveMeMovies.LastPickedPhoto
import GiveMeMovies.ProfileTextUpdate
import GiveMeMovies.AppRuns
import GiveMeMovies.HomeOpening
import GiveMeMovies.MemberScreens
import GiveMeMovies.HomeResponses
import GiveMeMovies.MemberGate
import GiveMeMovies.LogIn
import GiveMeMovies.AppRequests
import GiveMeMovies.AppResponses
import GiveMeMovies.DocumentWrites
import GiveMeMovies.PhotoPointers
import GiveMeMovies.DeletedProfile
import GiveMeMovies.RegisteredDocument
import GiveMeMovies.ProfileTimestamps
import GiveMeMovies.CachedUser
import GiveMeMovies.ProfileTexts
import GiveMeMovies.UpdateMessage
import GiveMeMovies.CallbackTask
import GiveMeMovies.ManagerAnswers
import GiveMeMovies.LoadingOverlays
import GiveMeMovies.RegisterButtons
import GiveMeMovies.VisiblePasswords
import GiveMeMovies.VerificationScreen
import GiveMeMovies.HexDigits
import GiveMeMovies.PercentEncoding
import GiveMeMovies.SearchQuery
import GiveMeMovies.EmailDecision
import GiveMeMovies.ColorHex
import GiveMeMovies.MovieCell
import GiveMeMovies.ProfileDocuments
import GiveMeMovies.OtherAccounts
import GiveMeMovies.HitTesting
import GiveMeMovies.MyTabBar
import GiveMeMovies.HomeController
import GiveMeMovies.HomePages
import GiveMeMovies.ModalChain
import GiveMeMovies.PasswordReset
import GiveMeMovies.SeparatedText
import GiveMeMovies.StoragePath
import GiveMeMovies.PhotoReferences
import GiveMeMovies.RequestBounds
import GiveMeMovies.PresentedScreens
import GiveMeMovies.CallbackLog
import GiveMeMovies.ErrorAlerts
import GiveMeMovies.CustomToast
import GiveMeMovies.CallbackSimulation
import GiveMeMovies.Passwords
import GiveMeMovies.EscapedText
import GiveMeMovies.StorageAddress
