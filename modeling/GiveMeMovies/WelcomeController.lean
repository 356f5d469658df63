import GiveMeMovies.RegisterController

/-!
# The welcome screen

Log in checks the fields. When nobody is signed in it sends them to the authentication service.
When somebody is, it loads that user's document and does not look at them again.
-/

namespace GiveMeMovies.WelcomeViewController

open Program UserManager

variable {Image Data : Type} (ios : Platform Image Data)

def onBack (self : Controller) : Program Image Data := popViewController self

def userError (self : Controller) (error : Option NSError) : Program Image Data :=
  weakly self (showErrorWith self (some "Error") (error.map NSError.localizedDescription))

def getUser (self : Controller) (uid : Uid) : Program Image Data :=
  UserManager.getUser .welcomeGetUser self uid setSharedUser (userError self)

/-- The first guard asks for a code that equals two different constants. -/
def signInFailed (self : Controller) (error : NSError) : Program Image Data :=
  if error.code = AuthErrorCode.invalidEmail ∧ error.code = AuthErrorCode.wrongPassword then
    showErrorWith self (some "Error") (some "Incorrect email or password!")
  else if error.code = AuthErrorCode.userDisabled then
    showErrorWith self (some "Error") (some "Your account was disabled")
  else
    showErrorWith self (some "Error") (some error.localizedDescription) ++ removeLoadingSpinner

def signedIn (self : Controller) : Except NSError AuthUser → Program Image Data
  | .error error => weakly self (signInFailed self error)
  | .ok user => weakly self
      (getUser self user.uid ++ removeLoadingSpinner ++ goToHomeScreen self)

def userLoaded (self : Controller) (user : User) : Program Image Data :=
  setSharedUser user ++ weakly self (goToHomeScreen self)

def noUser (self : Controller) : Option NSError → Program Image Data
  | some error => weakly self
      (showErrorWith self (some "Error") (some error.localizedDescription))
  | none => weakly self
      (showErrorWith self (some "No account found") (some "Please create an account."))

def logIn (self : Controller) (email password : String) : Program Image Data :=
  .read (fun app =>
    if app.authUser.isNone then
      showLoadingSpinner self ++
      send .welcomeSignIn self (.signIn email password) (signedIn self)
    else
      guardUid (fun uid =>
        UserManager.getUser .welcomeLogInSignedIn self uid setSharedUser (userError self) ++
        UserManager.getUser .welcomeLoadSignedIn self uid (userLoaded self) (noUser self)))

/-- The message of the first guard of `validateFields` that fails. -/
def validationError (email password : String) : Option String :=
  if email = "" then some "Please enter your email"
  else if ¬ isValidEmail email then some "Please enter a valid email"
  else if password = "" then some "Please enter a password"
  else if ios.count password < 6 then some "Your password must contain at least 6 characters"
  else none

/-- `validateFields` with the texts of `emailText` and `passwordText`. -/
def validateFields (self : Controller) (emailText passwordText : String) :
    Program Image Data :=
  match validationError ios emailText passwordText with
  | some msg => showErrorWith self (some "Error") (some msg)
  | none => logIn self emailText passwordText

def loginAction (self : Controller) (emailText passwordText : String) : Program Image Data :=
  validateFields ios self emailText passwordText

def createAccountAction (self : Controller) : Program Image Data :=
  pushViewController self .register (RegisterViewController.viewDidLoad ios)

end GiveMeMovies.WelcomeViewController
