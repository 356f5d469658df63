import GiveMeMovies.ProfileInformationController

/-!
# The profile screen

Logging out and deleting the account, each behind a dialog. Deleting signs the user out first,
and the two steps after it read the signed-in user again.
-/

namespace GiveMeMovies.ProfileViewController

open Program UserManager

variable {Image Data : Type} (ios : Platform Image Data)

def loadUserData (self : Controller) : Program Image Data :=
  guardUid (fun uid =>
    getUser .profileLoad self uid (showUser ios self "placeholder-person")
      (fun error => weakly self
        (showErrorWith self (some "Error") (error.map NSError.localizedDescription))))

def viewDidLoad (self : Controller) : Program Image Data := loadUserData ios self

def viewWillAppear (self : Controller) : Program Image Data := loadUserData ios self

def backToLoginScreen (self : Controller) : Program Image Data :=
  pushViewController self .splash SplashViewController.viewDidLoad

def logOut (self : Controller) : Program Image Data :=
  showLoadingSpinner self ++ .read (fun app =>
    match app.signOutError with
    | none => .modify App.signOut ++ removeLoadingSpinner ++ backToLoginScreen self
    | some _ => .done)

def logoutAlert (self : Controller) : Program Image Data :=
  present self (.alert self .logOut)

/-- The action of the button Yes. -/
def confirmLogOut (self : Controller) : Program Image Data := weakly self (logOut self)

def authDeleted (self : Controller) : Except AuthFailure Unit → Program Image Data
  | .error failure => weakly self
      (showErrorWith self (some "Error") (some failure.error.localizedDescription))
  | .ok _ => .done

/-- The completion of the deletions of the document and of the photo. -/
def deleted (self : Controller) : Option NSError → Program Image Data
  | some error => showErrorWith self (some "Error") (some error.localizedDescription)
  | none => .done

def deleteAccountFromAuth (self : Controller) : Program Image Data :=
  guardUser (fun user authUser =>
    .modify App.signOut ++
    send .profileDeleteAuth self (.delete user authUser.uid) (authDeleted self))

def deleteAccountFromDatabase (self : Controller) : Program Image Data :=
  guardUid (fun uid =>
    UserManager.deleteAccount .profileDeleteDocument self uid (deleted self))

def deleteUserPhoto (self : Controller) : Program Image Data :=
  guardUid (fun itemId =>
    send .profileDeletePhoto self (.deleteObject (.photoJpg itemId)) (deleted self))

/-- The action of the button OK. -/
def confirmDelete (self : Controller) : Program Image Data :=
  weakly self (deleteAccountFromAuth self ++ deleteAccountFromDatabase self ++
    deleteUserPhoto self ++ backToLoginScreen self)

def showActionSheet (self : Controller) : Program Image Data :=
  present self (.alert self .deleteAccount)

def deleteAccount (self : Controller) : Program Image Data :=
  .read (fun app =>
    if app.authUser.isSome then showActionSheet self
    else showErrorWith self (some "Error") (some ("Your account was successfuly deleted, " ++
      "but couldn't get you back to the Login Screen.")))

/-- The delegate of the new screen is set before its view is loaded. -/
def profileInfoClick (self : Controller) : Program Image Data :=
  pushViewController self .profileInformation (fun controller =>
    ProfileInformationViewController.setForm controller
      (fun form => { form with delegate := some self }) ++
    ProfileInformationViewController.viewDidLoad ios controller)

end GiveMeMovies.ProfileViewController
