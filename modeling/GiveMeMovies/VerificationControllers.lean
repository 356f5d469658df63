import GiveMeMovies.SplashController

/-!
# The screens between registration and the member area

The email verification screen asks the authentication service whether the address has been
verified. Back cancels the registration, Continue goes on to the welcome screen, and Start there
enters the member area.
-/

namespace GiveMeMovies

open Program UserManager

variable {Image Data : Type} (ios : Platform Image Data)

namespace WelcomeInfoViewController

def loadUserData (self : Controller) : Program Image Data :=
  showLoadingSpinner self ++
  guardUid (fun uid =>
    getUser .welcomeInfoLoad self uid (showUser ios self "userPlaceholder")
      (fun error => weakly self
        (showErrorWith self (some "Error") (error.map NSError.localizedDescription)))) ++
  removeLoadingSpinner

def viewWillAppear (self : Controller) : Program Image Data :=
  send .welcomeInfoDeadline self .timer (fun _ => loadUserData ios self)

def onBack (self : Controller) : Program Image Data := popViewController self

def startButtonAction (self : Controller) : Program Image Data := goToHomeScreen self

end WelcomeInfoViewController

namespace EmailVerificationViewController

def deleteAccountCompletion (self : Controller) : Option NSError → Program Image Data
  | some error => weakly self
      (showErrorWith self (some "Error") (some error.localizedDescription))
  | none => .done

def deleteAccount (self : Controller) (uid : Uid) : Program Image Data :=
  .read (fun app =>
    if app.authUser.isSome then
      UserManager.deleteAccount .verificationBackDeleteDocument self uid
        (deleteAccountCompletion self)
    else .done)

def userDeleted (self : Controller) : Except AuthFailure Unit → Program Image Data
  | .error failure => weakly self
      (showErrorWith self (some "Error") (some failure.error.localizedDescription))
  | .ok _ => .done

/-- The handler of the reload, which looks at the flag and not at the error. -/
def onBackReloaded (self : Controller) (user : ℕ) (authUser : AuthUser) : Program Image Data :=
  .read (fun app =>
    if app.isEmailVerified user then
      weakly self (showErrorWith self (some "Error") (some ("This email address is already " ++
        "verified. \n Please continue with the setup process.")))
    else
      send .verificationBackDelete self (.delete user authUser.uid) (userDeleted self) ++
      guardUid (fun uid =>
        weakly self (deleteAccount self uid) ++ weakly self (popViewController self)))

def onBack (self : Controller) : Program Image Data :=
  guardUser (fun user authUser =>
    send .verificationBackReload self (.reload user authUser.uid)
      (fun _ => onBackReloaded self user authUser))

def mailSent (self : Controller) : Except AuthFailure Unit → Program Image Data
  | .error failure =>
      weakly self (removeLoadingSpinner ++
        showErrorWith self (some "Error") (some failure.error.localizedDescription) ++
        removeLoadingSpinner)
  | .ok _ => weakly self removeLoadingSpinner

def sendEmailVerification (self : Controller) : Program Image Data :=
  showLoadingSpinner self ++
  guardUser (fun user authUser =>
    send .verificationSendMail self (.sendEmailVerification user authUser.uid) (mailSent self))

def checkedEmailVerification (self : Controller) (user : ℕ) : Program Image Data :=
  .read (fun app =>
    if app.isEmailVerified user then
      weakly self (removeLoadingSpinner ++
        pushViewController self .welcomeInfo (WelcomeInfoViewController.viewWillAppear ios))
    else
      weakly self (showErrorWith self (some "Error") (some ("Please verify your email address " ++
        "to continue. \n(In case you didn't receive a verification link, please tap on " ++
        "Resend link.")) ++ removeLoadingSpinner))

def checkEmailVerification (self : Controller) : Program Image Data :=
  showLoadingSpinner self ++
  guardUser (fun user authUser =>
    send .verificationContinue self (.reload user authUser.uid)
      (fun _ => checkedEmailVerification ios self user))

end EmailVerificationViewController

end GiveMeMovies
